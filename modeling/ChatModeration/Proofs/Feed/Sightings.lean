import ChatModeration.Feed.FirstMessage
import ChatModeration.Proofs.Store.Refinement
import ChatModeration.Proofs.Store.Survivors
import ChatModeration.Proofs.Text.Pieces

/-!
# Sightings of first messages

Frames are handled and the watcher's store is swept in any order and at any times (`FirstMessages.run`).  A message is
sighted if a frame has told that it is a first one and no sweep since has come after its minute (`Sighted`).  These are
the messages that are remembered (`known_iff`), so they are what those learn who ask while no frame arrives
(`ask_of_run`).
-/

namespace ChatModeration.Feed.FirstMessages

open Store (Ledger Line Deed)

/-- What happens to the first messages that are remembered. -/
inductive Occurrence where
  | frame (text : String)
  | sweep
deriving DecidableEq, Repr

/-- The first messages that are remembered after an occurrence at some time of the clock. -/
def after (seen : FirstMessages) : Nat × Occurrence → FirstMessages
  | (now, .frame text) => seen.handleFrame text now
  | (now, .sweep) => (seen.reclaim now).1

/-- The first messages that are remembered after some occurrences, each at its time. -/
def run (seen : FirstMessages) (past : List (Nat × Occurrence)) : FirstMessages := past.foldl after seen

/-! ### Frames and their lines -/

/-- One of the lines of a text is the first message of its sender, and has this id. -/
def Tells (text id : String) : Prop :=
  ∃ line ∈ Text.pieces '\n' text.toList, firstMessage? (Text.trim (String.ofList line)) = some id

theorem mem_idsOf {text id : String} : id ∈ idsOf text ↔ Tells text id := List.mem_filterMap

instance (text id : String) : Decidable (Tells text id) := decidable_of_iff _ mem_idsOf

theorem idsOf_lines (a b : String) : idsOf (a ++ "\n" ++ b) = idsOf a ++ idsOf b := by
  have hlines : (a ++ "\n" ++ b).toList = a.toList ++ '\n' :: b.toList := by
    rw [String.toList_append, String.toList_append, List.append_assoc]
    rfl
  rw [idsOf, hlines, Text.pieces_append_cons, List.filterMap_append, idsOf, idsOf]

/-- Two frames are handled as one frame with a line break between them is. -/
theorem handleFrame_lines (seen : FirstMessages) (a b : String) (now : Nat) :
    seen.handleFrame (a ++ "\n" ++ b) now = (seen.handleFrame a now).handleFrame b now := by
  rw [handleFrame, idsOf_lines, List.foldl_append]
  rfl

/-! ### Sightings -/

/-- When a first message is to be forgotten that is told of now: after its time, or at once if the clock cannot show the
end of that time. -/
def forgottenFrom (horizon now : Nat) : Nat := Store.expiry horizon now retention

theorem forgottenFrom_eq {horizon now : Nat} (h : now + retention ≤ horizon) :
    forgottenFrom horizon now = now + retention := if_pos h

/-- A frame has told that the message is a first one, and no sweep since came when that was to be forgotten. -/
def Sighted (horizon : Nat) (id : String) (past : List (Nat × Occurrence)) : Prop :=
  ∃ before now text since, past = before ++ (now, .frame text) :: since ∧ Tells text id ∧
    ∀ later, (later, .sweep) ∈ since → later < forgottenFrom horizon now

variable {horizon : Nat} {id : String}

theorem not_sighted_nil : ¬Sighted horizon id [] := by
  rintro ⟨before, now, text, since, hpast, -⟩
  exact List.append_ne_nil_of_right_ne_nil before (List.cons_ne_nil _ _) hpast.symm

/-- A sighting is the oldest occurrence or a later one. -/
theorem sighted_cons {o : Nat × Occurrence} {since : List (Nat × Occurrence)} :
    Sighted horizon id (o :: since) ↔
      (∃ text, o.2 = .frame text ∧ Tells text id ∧
        ∀ later, (later, .sweep) ∈ since → later < forgottenFrom horizon o.1) ∨ Sighted horizon id since := by
  constructor
  · rintro ⟨before, now, text, after, hpast, htells, hlive⟩
    cases before with
    | nil =>
      obtain ⟨rfl, rfl⟩ := List.cons.inj hpast
      exact .inl ⟨text, rfl, htells, hlive⟩
    | cons first before =>
      obtain ⟨rfl, rfl⟩ := List.cons.inj hpast
      exact .inr ⟨before, now, text, after, rfl, htells, hlive⟩
  · rintro (⟨text, htext, htells, hlive⟩ | ⟨before, now, text, after, rfl, htells, hlive⟩)
    · obtain ⟨now, occurrence⟩ := o
      obtain rfl : occurrence = .frame text := htext
      exact ⟨[], now, text, since, rfl, htells, hlive⟩
    · exact ⟨o :: before, now, text, after, rfl, htells, hlive⟩

/-- Sweeps bring no new sightings. -/
theorem Sighted.of_append {past sweeps : List (Nat × Occurrence)} (h : Sighted horizon id (past ++ sweeps))
    (hsweeps : ∀ o ∈ sweeps, o.2 = .sweep) : Sighted horizon id past := by
  induction past with
  | nil =>
    obtain ⟨before, now, text, since, hsplit, -⟩ := h
    have hframe : (now, Occurrence.frame text) ∈ sweeps := by
      rw [← List.nil_append sweeps, hsplit]
      exact List.mem_append_right _ List.mem_cons_self
    exact Occurrence.noConfusion (hsweeps _ hframe)
  | cons o past ih =>
    rw [List.cons_append, sighted_cons] at h
    rw [sighted_cons]
    rcases h with ⟨text, htext, htells, hlive⟩ | h
    · exact .inl ⟨text, htext, htells, fun later hlater => hlive later (List.mem_append_left _ hlater)⟩
    · exact .inr (ih h)

/-! ### Occurrences as deeds -/

/-- What a frame adds to the ledger of the first messages. -/
def sightings (horizon now : Nat) (text : String) : List (Line String Unit) :=
  (idsOf text).map fun id => ⟨id, (), now, forgottenFrom horizon now⟩

/-- What an occurrence does to the ledger of the first messages. -/
def deeds (horizon : Nat) : Nat × Occurrence → List (Deed String Unit)
  | (now, .frame text) => (sightings horizon now text).map .add
  | (now, .sweep) => [.sweep now]

theorem represents_foldl_push {seen : FirstMessages} {l : Ledger String Unit} (h : seen.Represents l)
    (ids : List String) (now : Nat) :
    let after := ids.foldl (fun seen id => seen.push id () now retention) seen
    after.Represents (l ++ ids.map fun id => ⟨id, (), now, forgottenFrom seen.horizon now⟩) ∧
      after.horizon = seen.horizon := by
  induction ids generalizing seen l with
  | nil =>
    rw [List.map_nil, List.append_nil]
    exact ⟨h, rfl⟩
  | cons id ids ih =>
    obtain ⟨hrest, hhorizon⟩ := ih (h.push id () now retention)
    have hpush : (seen.push id () now retention).horizon = seen.horizon :=
      (Store.sameShape_replaceShard seen id _).horizon
    rw [hpush, Ledger.push, List.append_assoc, List.singleton_append] at hrest
    exact ⟨hrest, hhorizon.trans hpush⟩

/-- An occurrence does its deeds to the ledger. -/
theorem represents_after {seen : FirstMessages} {l : Ledger String Unit} (h : seen.Represents l)
    (o : Nat × Occurrence) :
    (seen.after o).Represents ((deeds seen.horizon o).foldl Ledger.after l) ∧
      (seen.after o).horizon = seen.horizon := by
  obtain ⟨now, occurrence⟩ := o
  cases occurrence with
  | frame text =>
    rw [deeds, Ledger.foldl_after_map_add]
    exact represents_foldl_push h (idsOf text) now
  | sweep =>
    obtain ⟨hswept, -, hhorizon⟩ := h.reclaim now
    rw [deeds, List.foldl_cons, List.foldl_nil, Ledger.after_sweep]
    exact ⟨hswept, hhorizon⟩

theorem represents_run {seen : FirstMessages} {l : Ledger String Unit} (h : seen.Represents l)
    (past : List (Nat × Occurrence)) :
    (seen.run past).Represents ((past.flatMap (deeds seen.horizon)).foldl Ledger.after l) := by
  induction past generalizing seen l with
  | nil => exact h
  | cons o later ih =>
    obtain ⟨hafter, hhorizon⟩ := represents_after h o
    have hlater := ih hafter
    rw [hhorizon, ← List.foldl_append] at hlater
    exact hlater

/-- An item is spared by the deeds of some occurrences if no sweep among them finds it expired. -/
theorem all_spares (x : Line String Unit) (past : List (Nat × Occurrence)) :
    (past.flatMap (deeds horizon)).all (·.spares x) = true ↔ ∀ later, (later, .sweep) ∈ past → later < x.expiresAt := by
  induction past with
  | nil => simp
  | cons o past ih =>
    rw [List.flatMap_cons, List.all_append, Bool.and_eq_true, ih]
    obtain ⟨now, occurrence⟩ := o
    cases occurrence with
    | frame text => simp [deeds, Deed.spares]
    | sweep => simp [deeds, Deed.spares]

/-- The messages that are left in the ledger are those that are sighted. -/
theorem exists_mem_survivors (past : List (Nat × Occurrence)) :
    (∃ x ∈ Ledger.survivors (past.flatMap (deeds horizon)), x.key = id) ↔ Sighted horizon id past := by
  induction past with
  | nil => simp [Ledger.survivors, not_sighted_nil]
  | cons o past ih =>
    rw [List.flatMap_cons, Ledger.survivors_append, sighted_cons, ← ih]
    obtain ⟨now, occurrence⟩ := o
    cases occurrence with
    | frame text =>
      rw [deeds, Ledger.survivors_map_add]
      simp only [List.mem_append, List.mem_filter, all_spares, or_and_right, exists_or]
      refine or_congr_left ⟨?_, ?_⟩
      · rintro ⟨x, ⟨hx, hlive⟩, rfl⟩
        obtain ⟨id, hid, rfl⟩ := List.mem_map.1 hx
        exact ⟨text, rfl, mem_idsOf.1 hid, hlive⟩
      · rintro ⟨text', htext, htells, hlive⟩
        obtain rfl := Occurrence.frame.inj htext
        exact ⟨_, ⟨List.mem_map.2 ⟨id, mem_idsOf.2 htells, rfl⟩, hlive⟩, rfl⟩
    | sweep => simp [deeds, Ledger.survivors, Deed.added?]

/-! ### Answers -/

variable (name : String) (shardCount interval : Nat) (assign : String → Nat)

/-- The first messages that are remembered are those that are sighted. -/
theorem count_run_pos (past : List (Nat × Occurrence)) :
    0 < (run (Store.empty name shardCount interval horizon assign) past).count id ↔ Sighted horizon id past := by
  have hrun := represents_run (Store.represents_empty name shardCount interval horizon assign) past
  rw [Ledger.foldl_after_nil] at hrun
  rw [hrun.count, Ledger.count, List.countP_pos_iff, ← exists_mem_survivors]
  simp only [decide_eq_true_eq]
  rfl

theorem isFirst?_eq_some_iff {seen : FirstMessages} : seen.isFirst? id = some true ↔ 0 < seen.count id := by
  simp [isFirst?, Nat.pos_iff_ne_zero]

theorem isFirst?_eq_none_iff {seen : FirstMessages} : seen.isFirst? id = none ↔ ¬0 < seen.count id := by
  simp [isFirst?]

theorem isFirst?_ne_some_false (seen : FirstMessages) : seen.isFirst? id ≠ some false := by
  rw [isFirst?]
  split <;> simp

/-- Looking again is of no use as long as nothing becomes known. -/
theorem ask_eq {seenAt : Nat → FirstMessages} {late : Nat → Nat} {deadline now : Nat}
    (h : ∀ t, now ≤ t → 0 < (seenAt t).count id → 0 < (seenAt now).count id) :
    ask seenAt late id deadline now = (seenAt now).isFirst? id := by
  induction now using ask.induct seenAt late id deadline with
  | case1 now first hfirst => rw [ask, hfirst]
  | case2 now hunknown hover => rw [ask, hunknown, if_pos hover]
  | case3 now hunknown hopen ih =>
    have hnever : ∀ t, now ≤ t → ¬0 < (seenAt t).count id := fun t ht hknown =>
      isFirst?_eq_none_iff.1 hunknown (h t ht hknown)
    have hnext : now ≤ now + pollInterval + late now := by omega
    rw [ask, hunknown]
    simp only [hopen, if_false]
    rw [ih fun t ht hknown => absurd hknown (hnever t (Nat.le_trans hnext ht)),
      isFirst?_eq_none_iff.2 (hnever _ hnext)]

/-- Whoever asks after any frames and sweeps, while there may be more sweeps but no more frames, learns that a message
that is sighted is a first one, and nothing about any other.  What a frame tells is to be forgotten a minute later, as
long as the clock can show that time.  It makes no difference whether lines come in one frame or in two. -/
theorem ask_of_run (past : List (Nat × Occurrence)) (id : String) (timeout now : Nat) (late : Nat → Nat)
    (sweeps : Nat → List Nat) (hsweeps : sweeps now = []) :
    let seenAt := fun t =>
      run (Store.empty name shardCount interval horizon assign) (past ++ (sweeps t).map fun swept => (swept, .sweep))
    let answer := ask seenAt late id (now + timeout) now
    (answer = some true ↔ Sighted horizon id past) ∧ (answer = none ↔ ¬Sighted horizon id past) ∧
      answer ≠ some false ∧
      (∀ told, told + retention ≤ horizon → forgottenFrom horizon told = told + retention) ∧
      ∀ (seen : FirstMessages) a b,
        seen.handleFrame (a ++ "\n" ++ b) now = (seen.handleFrame a now).handleFrame b now := by
  intro seenAt answer
  have hstart : seenAt now = run (Store.empty name shardCount interval horizon assign) past := by
    simp only [seenAt, hsweeps, List.map_nil, List.append_nil]
  have hknown : 0 < (seenAt now).count id ↔ Sighted horizon id past := by
    rw [hstart]
    exact count_run_pos name shardCount interval assign past
  have hquiet : ∀ t, now ≤ t → 0 < (seenAt t).count id → 0 < (seenAt now).count id := by
    intro t _ ht
    rw [hknown]
    refine Sighted.of_append ((count_run_pos name shardCount interval assign _).1 ht) fun o ho => ?_
    obtain ⟨swept, -, rfl⟩ := List.mem_map.1 ho
    rfl
  have hanswer : answer = (seenAt now).isFirst? id := ask_eq hquiet
  rw [hanswer]
  exact ⟨isFirst?_eq_some_iff.trans hknown, isFirst?_eq_none_iff.trans hknown.not, isFirst?_ne_some_false _,
    fun _ => forgottenFrom_eq, fun seen a b => handleFrame_lines seen a b now⟩

/-- A message that is told of twice outlives the minute of the first time. -/
theorem ask_of_run_twice :
    let line := "@first-msg=1;id=m1 :a!a@a.tmi.twitch.tv PRIVMSG #c :hi"
    let past : List (Nat × Occurrence) := [(0, .frame line), (30000, .frame (line ++ "\r\n")), (60000, .sweep)]
    let sweeps : Nat → List Nat := fun t => if t = 60000 then [] else [t]
    let seenAt := fun t => run (Store.empty "first-messages" 4 1000 Store.wordHorizon String.length)
      (past ++ (sweeps t).map fun swept => (swept, .sweep))
    sweeps 60000 = [] ∧ ask seenAt (fun _ => 3) "m1" (60000 + 50) 60000 = some true ∧
      ask seenAt (fun _ => 3) "m2" (60000 + 50) 60000 = none := by
  intro line past sweeps seenAt
  have hsweeps : sweeps 60000 = [] := if_pos rfl
  have htells : Tells (line ++ "\r\n") "m1" := by decide +kernel
  have hnot : ¬Tells line "m2" ∧ ¬Tells (line ++ "\r\n") "m2" := by decide +kernel
  have hsighted : Sighted Store.wordHorizon "m1" past := by
    refine ⟨[(0, .frame line)], 30000, line ++ "\r\n", [(60000, .sweep)], rfl, htells, fun later hlater => ?_⟩
    obtain rfl : later = 60000 := by simpa using hlater
    decide
  have hunsighted : ¬Sighted Store.wordHorizon "m2" past := by
    simp [past, sighted_cons, not_sighted_nil, hnot]
  exact ⟨hsweeps,
    (ask_of_run "first-messages" 4 1000 String.length past "m1" 50 60000 (fun _ => 3) sweeps hsweeps).1.2 hsighted,
    (ask_of_run "first-messages" 4 1000 String.length past "m2" 50 60000 (fun _ => 3) sweeps hsweeps).2.1.2 hunsighted⟩

end ChatModeration.Feed.FirstMessages
