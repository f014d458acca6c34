import ChatModeration.Proofs.Moderation.Runs

/-!
# What happens at a desk

A desk is told about messages, the time, new snapshots and the state of the channel, and it is told to reclaim what has
expired.  As far as the records are concerned all this is a list of jobs: the check of a message with the snapshot, the
state and the time of its moment, and the sweeps of all shards in place of one reclamation (`run_eq_performAll`).  What
is said about all runs of jobs therefore holds of all that can happen at a desk.
-/

namespace ChatModeration

theorem Store.reclaim_fst {κ τ : Type} [DecidableEq κ] (s : Store κ τ) (now : Nat) :
    (s.reclaim now).1 = (List.range s.shardCount).foldl (fun s i => (s.reclaimShard now i).1) s := by
  rw [Store.reclaim]
  generalize 0 = total
  generalize List.range s.shardCount = order
  induction order generalizing s total with
  | nil => rfl
  | cons i order ih => exact ih ..

end ChatModeration

namespace ChatModeration.Moderation

namespace Records

/-- The number of shards of a store. -/
def shardCount (r : Records) : Part → Nat
  | .history => r.history.shardCount
  | .spam => r.violations.spam.shardCount
  | .emotes => r.violations.emotes.shardCount
  | .exceptions => r.violations.exceptions.shardCount
  | .rules => r.violations.rules.shardCount

/-- The records without what has expired in one store. -/
def reclaimPart (r : Records) (now : Nat) : Part → Records
  | .history => { r with history := (r.history.reclaim now).1 }
  | .spam => { r with violations := { r.violations with spam := (r.violations.spam.reclaim now).1 } }
  | .emotes => { r with violations := { r.violations with emotes := (r.violations.emotes.reclaim now).1 } }
  | .exceptions => { r with violations := { r.violations with exceptions := (r.violations.exceptions.reclaim now).1 } }
  | .rules => { r with violations := { r.violations with rules := (r.violations.rules.reclaim now).1 } }

/-- The sweeps of all shards of one store. -/
def sweepsOf (r : Records) (now : Nat) (part : Part) : List Job :=
  (List.range (r.shardCount part)).map (.sweep now · part)

/-- The sweeps of all shards of all stores. -/
def sweeps (r : Records) (now : Nat) : List Job :=
  [Part.history, .spam, .emotes, .exceptions, .rules].flatMap (r.sweepsOf now)

theorem performAll_append_jobs (r : Records) (jobs others : List Job) :
    r.performAll (jobs ++ others) =
      (((r.performAll jobs).1.performAll others).1,
        (r.performAll jobs).2 ++ ((r.performAll jobs).1.performAll others).2) := by
  induction jobs generalizing r with
  | nil => rfl
  | cons job jobs ih => rw [List.cons_append, performAll, performAll, ih]; rfl

theorem performAll_map_sweep (r : Records) (now : Nat) (part : Part) (order : List Nat) :
    (r.performAll (order.map (.sweep now · part))).1 = order.foldl (fun r i => r.sweep now i part) r := by
  induction order generalizing r with
  | nil => rfl
  | cons i order ih => exact ih _

/-- The sweeps of all shards of a store remove from it what has expired. -/
theorem performAll_sweepsOf (r : Records) (now : Nat) (part : Part) :
    (r.performAll (r.sweepsOf now part)).1 = r.reclaimPart now part := by
  rw [sweepsOf, performAll_map_sweep]
  cases part with
  | history =>
    rw [reclaimPart, Store.reclaim_fst]
    refine List.foldl_hom (fun history => { r with history }) ?_
    exact fun _ _ => rfl
  | spam =>
    rw [reclaimPart, Store.reclaim_fst]
    refine List.foldl_hom (fun spam => { r with violations := { r.violations with spam } }) ?_
    exact fun _ _ => rfl
  | emotes =>
    rw [reclaimPart, Store.reclaim_fst]
    refine List.foldl_hom (fun emotes => { r with violations := { r.violations with emotes } }) ?_
    exact fun _ _ => rfl
  | exceptions =>
    rw [reclaimPart, Store.reclaim_fst]
    refine List.foldl_hom (fun exceptions => { r with violations := { r.violations with exceptions } }) ?_
    exact fun _ _ => rfl
  | rules =>
    rw [reclaimPart, Store.reclaim_fst]
    refine List.foldl_hom (fun rules => { r with violations := { r.violations with rules } }) ?_
    exact fun _ _ => rfl

theorem performAll_sweeps (r : Records) (now : Nat) : (r.performAll (r.sweeps now)).1 = (r.reclaim now).1 := by
  have hsplit : r.sweeps now = r.sweepsOf now .history ++ ((r.reclaimPart now .history).sweepsOf now .spam ++
      (((r.reclaimPart now .history).reclaimPart now .spam).sweepsOf now .emotes ++
        ((((r.reclaimPart now .history).reclaimPart now .spam).reclaimPart now .emotes).sweepsOf now .exceptions ++
          (((((r.reclaimPart now .history).reclaimPart now .spam).reclaimPart now .emotes).reclaimPart now
            .exceptions).sweepsOf now .rules)))) := by
    simp [sweeps]
    rfl
  rw [hsplit]
  simp only [performAll_append_jobs, performAll_sweepsOf]
  rfl

/-- Only checks have answers. -/
theorem answers_of_sender_none {jobs : List Job} (h : ∀ job ∈ jobs, job.sender? = none) (r : Records) :
    (r.performAll jobs).2.filterMap id = [] := by
  induction jobs generalizing r with
  | nil => rfl
  | cons job jobs ih =>
    obtain ⟨hjob, hjobs⟩ := List.forall_mem_cons.1 h
    cases job with
    | check w now later m => cases hjob
    | sweep now index part => exact ih hjobs _

theorem sender_of_mem_sweeps {r : Records} {now : Nat} {job : Job} (h : job ∈ r.sweeps now) : job.sender? = none := by
  obtain ⟨part, -, hpart⟩ := List.mem_flatMap.1 h
  obtain ⟨i, -, rfl⟩ := List.mem_map.1 hpart
  rfl

end Records

/-! ### Desks -/

namespace Desk

/-- The jobs that something that happens comes down to. -/
def jobsFor (d : Desk) : Occurrence → List Job
  | .message m => [.check d.surroundings d.now d.now m]
  | .reclaim => d.records.sweeps d.now
  | _ => []

/-- The jobs that all that happens comes down to. -/
def jobs (d : Desk) : List Occurrence → List Job
  | [] => []
  | o :: os => d.jobsFor o ++ (d.step o).1.jobs os

/-- Whether nobody is forgotten. -/
def Remembers (occurrences : List Occurrence) : Prop := ∀ user, .forget user ∉ occurrences

theorem step_eq_performAll (d : Desk) {o : Occurrence} (h : ∀ user, o ≠ .forget user) :
    (d.step o).1.records = (d.records.performAll (d.jobsFor o)).1 ∧
      (d.step o).2.toList.map (·.verdict) = (d.records.performAll (d.jobsFor o)).2.filterMap id := by
  cases o with
  | message m => exact ⟨rfl, rfl⟩
  | reclaim =>
    refine ⟨(d.records.performAll_sweeps d.now).symm, ?_⟩
    exact (Records.answers_of_sender_none (fun job hm => Records.sender_of_mem_sweeps hm) d.records).symm
  | forget user => exact absurd rfl (h user)
  | _ => exact ⟨rfl, rfl⟩

/-- As long as nobody is forgotten, what happens at a desk does to the records what its jobs do. -/
theorem run_eq_performAll (d : Desk) {occurrences : List Occurrence} (h : Remembers occurrences) :
    (d.run occurrences).1.records = (d.records.performAll (d.jobs occurrences)).1 ∧
      (d.run occurrences).2.map (·.verdict) = (d.records.performAll (d.jobs occurrences)).2.filterMap id := by
  induction occurrences generalizing d with
  | nil => exact ⟨rfl, rfl⟩
  | cons o os ih =>
    obtain ⟨hrecords, hverdicts⟩ := d.step_eq_performAll fun user he => h user (he ▸ List.mem_cons_self)
    obtain ⟨hrest, hrestVerdicts⟩ := ih (d.step o).1 fun user hm => h user (List.mem_cons_of_mem _ hm)
    rw [jobs, Records.performAll_append_jobs, List.filterMap_append, ← hrecords, ← hverdicts, ← hrest,
      ← hrestVerdicts, ← List.map_append]
    exact ⟨rfl, rfl⟩

end Desk

end ChatModeration.Moderation
