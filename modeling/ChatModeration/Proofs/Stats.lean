import ChatModeration.Stats
import Mathlib.Algebra.GroupWithZero.Nat
import Mathlib.Data.List.DropRight
import Mathlib.Data.List.Induction

/-!
# Statistics over time

The statistics of a stream are asked anything, one call after the other (`StreamStats.serve`).  Their counters count the
calls since the last start of a window, whether or not that window has been closed since, and a window is open if the
last call that started or ended one was a start (`kept_run`).  A counter has 64 bits and starts again from zero when
it is full (`inWords`); with fewer calls than that none of them ever does, and the statistics answer by what has been
counted (`lawful_run`).
-/

namespace ChatModeration.StreamStats

/-! ### Calls -/

/-- Something that is asked of the statistics. -/
inductive Call where
  | message (heldByAutomod : Bool)
  | verdict (kind : VerdictKind)
  | moderatorAction
  | startWindow (now : Nat)
  | endWindow
  | summary
deriving DecidableEq, Repr

namespace Call

/-- Whether a call counts a message. -/
def isMessage : Call → Bool
  | message _ => true
  | _ => false

/-- Whether a call counts a verdict that did something. -/
def isAction : Call → Bool
  | verdict kind => kind ≠ .none
  | _ => false

/-- Whether a call starts a window. -/
def isStart : Call → Bool
  | startWindow _ => true
  | _ => false

/-- Whether a call starts or ends a window. -/
def isBoundary : Call → Bool
  | startWindow _ | endWindow => true
  | _ => false

end Call

/-- The answer to a call. -/
inductive Answer where
  | done
  /-- The summary of the window that has been closed, if one was open. -/
  | closed (summary : Option StreamStats)
  | summary (s : StreamStats)
deriving DecidableEq, Repr

/-- The statistics after a call, and the answer. -/
def serve (s : StreamStats) : Call → StreamStats × Answer
  | .message heldByAutomod => (s.recordMessage heldByAutomod, .done)
  | .verdict kind => (s.recordVerdict kind, .done)
  | .moderatorAction => (s.recordModeratorAction, .done)
  | .startWindow now => (s.startWindow now, .done)
  | .endWindow => (s.endWindow.1, .closed s.endWindow.2)
  | .summary => (s, .summary s)

/-- The statistics as counters of 64 bits show them. -/
def inWords (s : StreamStats) : StreamStats where
  messages := s.messages % 2 ^ 64
  automodHolds := s.automodHolds % 2 ^ 64
  deletes := s.deletes % 2 ^ 64
  timeouts := s.timeouts % 2 ^ 64
  bans := s.bans % 2 ^ 64
  moderatorActions := s.moderatorActions % 2 ^ 64
  windowStart := s.windowStart

/-- The statistics after some calls, kept in counters of 64 bits. -/
def run (s : StreamStats) (calls : List Call) : StreamStats := calls.foldl (fun s c => (s.serve c).1.inWords) s

/-- The answers to some calls by statistics that are kept in counters of 64 bits. -/
def answers (s : StreamStats) : List Call → List Answer
  | [] => []
  | c :: calls => (s.serve c).2 :: answers (s.serve c).1.inWords calls

/-- The answer to a call comes from the statistics after the calls before it. -/
theorem getElem?_answers (s : StreamStats) (calls : List Call) (i : Nat) :
    (s.answers calls)[i]? = calls[i]?.map fun c => ((s.run (calls.take i)).serve c).2 := by
  induction calls generalizing s i with
  | nil => rfl
  | cons c calls ih =>
    cases i with
    | zero => rfl
    | succ i =>
      rw [answers, List.getElem?_cons_succ, List.getElem?_cons_succ, ih, List.take_succ_cons]
      rfl

theorem run_take_succ (s : StreamStats) {calls : List Call} {i : Nat} {c : Call} (h : calls[i]? = some c) :
    s.run (calls.take (i + 1)) = ((s.run (calls.take i)).serve c).1.inWords := by
  rw [run, List.take_add_one, h, List.foldl_append]
  rfl

/-! ### Counters without an end -/

/-- The statistics after some calls, with counters that never run full. -/
def tally (calls : List Call) : StreamStats := calls.foldl (fun s c => (s.serve c).1) {}

theorem tally_concat (calls : List Call) (c : Call) : tally (calls ++ [c]) = ((tally calls).serve c).1 := by
  rw [tally, List.foldl_append]
  rfl

/-- The calls since the last start of a window, or all of them if no window has been started. -/
def sinceStart (calls : List Call) : List Call := calls.rtakeWhile fun c => !c.isStart

theorem sinceStart_concat (calls : List Call) (c : Call) :
    sinceStart (calls ++ [c]) = if c.isStart then [] else sinceStart calls ++ [c] := by
  rw [sinceStart, List.rtakeWhile_concat]
  cases h : c.isStart <;> simp [sinceStart]

/-- The counters are the numbers of certain calls. -/
structure Counts (s : StreamStats) (calls : List Call) : Prop where
  messages : s.messages = calls.countP Call.isMessage
  automodHolds : s.automodHolds = calls.count (.message true)
  deletes : s.deletes = calls.count (.verdict .delete)
  timeouts : s.timeouts = calls.count (.verdict .timeout)
  bans : s.bans = calls.count (.verdict .ban)
  moderatorActions : s.moderatorActions = calls.count .moderatorAction

/-- A call that does not start a window is counted, and nothing else. -/
theorem Counts.serve {s : StreamStats} {calls : List Call} (h : Counts s calls) {c : Call} (hc : c.isStart = false) :
    Counts (s.serve c).1 (calls ++ [c]) := by
  obtain ⟨hmessages, hholds, hdeletes, htimeouts, hbans, hmoderator⟩ := h
  cases c with
  | message held =>
    cases held <;> constructor <;> simp [StreamStats.serve, recordMessage, Call.isMessage, List.count_append, *]
  | verdict kind =>
    cases kind <;> constructor <;> simp [StreamStats.serve, recordVerdict, Call.isMessage, List.count_append, *]
  | moderatorAction =>
    constructor <;> simp [StreamStats.serve, recordModeratorAction, Call.isMessage, List.count_append, *]
  | startWindow now => cases hc
  | endWindow => constructor <;> simp [StreamStats.serve, endWindow, Call.isMessage, List.count_append, *]
  | summary => constructor <;> simp [StreamStats.serve, Call.isMessage, List.count_append, *]

theorem Counts.automodHolds_le {s : StreamStats} {calls : List Call} (h : Counts s calls) :
    s.automodHolds ≤ s.messages := by
  rw [h.automodHolds, h.messages]
  refine List.countP_mono_left fun c _ hc => ?_
  obtain rfl := eq_of_beq hc
  rfl

/-- The verdicts that did something are the deletes, the timeouts and the bans. -/
theorem Counts.actions {s : StreamStats} {calls : List Call} (h : Counts s calls) :
    s.actions = calls.countP Call.isAction := by
  rw [StreamStats.actions, h.deletes, h.timeouts, h.bans]
  clear h
  induction calls with
  | nil => rfl
  | cons c calls ih =>
    rw [List.countP_cons, ← ih]
    cases c with
    | verdict kind => cases kind <;> simp [Call.isAction] <;> omega
    | _ => simp [Call.isAction]

/-- Each counter is at most the number of calls, and so are the deletes, timeouts and bans together. -/
theorem Counts.le_length {s : StreamStats} {calls : List Call} (h : Counts s calls) :
    s.messages ≤ calls.length ∧ s.actions ≤ calls.length ∧ s.moderatorActions ≤ calls.length := by
  rw [h.messages, h.actions, h.moderatorActions]
  exact ⟨List.countP_le_length, List.countP_le_length, List.count_le_length⟩

theorem counts_tally (calls : List Call) : Counts (tally calls) (sinceStart calls) := by
  induction calls using List.reverseRecOn with
  | nil => exact ⟨rfl, rfl, rfl, rfl, rfl, rfl⟩
  | append_singleton calls c ih =>
    rw [tally_concat, sinceStart_concat]
    split
    · next hc =>
      cases c with
      | startWindow now => exact ⟨rfl, rfl, rfl, rfl, rfl, rfl⟩
      | _ => cases hc
    · next hc => exact ih.serve (by simpa using hc)

/-- A window has been open since some time if the last start or end was a start at that time. -/
theorem windowStart_tally (calls : List Call) (now : Nat) :
    (tally calls).windowStart = some now ↔ (calls.filter Call.isBoundary).getLast? = some (.startWindow now) := by
  induction calls using List.reverseRecOn with
  | nil => simp [tally]
  | append_singleton calls c ih =>
    rw [tally_concat, List.filter_append]
    cases c with
    | verdict kind => cases kind <;> simpa [serve, recordVerdict, Call.isBoundary] using ih
    | startWindow => simp [serve, startWindow, Call.isBoundary]
    | endWindow => simp [serve, endWindow, Call.isBoundary]
    | _ => simpa [serve, recordMessage, recordModeratorAction, Call.isBoundary] using ih

/-! ### Counters of 64 bits -/

/-- A counter that starts again from zero when it is full shows what is left of the one that never runs full. -/
theorem inWords_serve (s : StreamStats) (c : Call) : (s.inWords.serve c).1.inWords = (s.serve c).1.inWords := by
  cases c with
  | message held => simp [serve, recordMessage, inWords]
  | verdict kind => cases kind <;> simp [serve, recordVerdict, inWords]
  | moderatorAction => simp [serve, recordModeratorAction, inWords]
  | startWindow now => rfl
  | endWindow => simp [serve, endWindow, inWords]
  | summary => simp [serve, inWords]

theorem run_eq_inWords (calls : List Call) : run {} calls = (tally calls).inWords := by
  induction calls using List.reverseRecOn with
  | nil => rfl
  | append_singleton calls c ih =>
    rw [tally_concat, ← inWords_serve, ← ih, run, List.foldl_append]
    rfl

theorem length_sinceStart_le (calls : List Call) : (sinceStart calls).length ≤ calls.length :=
  (List.rtakeWhile_suffix _ calls).length_le

/-- With fewer calls than a word can count, no counter runs full. -/
theorem run_eq_tally {calls : List Call} (h : calls.length < 2 ^ 64) : run {} calls = tally calls := by
  have hcounts := counts_tally calls
  have hlength := length_sinceStart_le calls
  obtain ⟨hmessages, hactions, hmoderator⟩ := hcounts.le_length
  have hholds := hcounts.automodHolds_le
  rw [StreamStats.actions] at hactions
  rw [run_eq_inWords, inWords]
  congr <;> exact Nat.mod_eq_of_lt (by omega)

theorem inWords_run (calls : List Call) : (run {} calls).inWords = run {} calls := by
  rw [run_eq_inWords]
  simp [inWords]

/-! ### All answers -/

/-- What the statistics are after some calls. -/
structure Kept (s : StreamStats) (calls : List Call) : Prop extends Counts s (sinceStart calls) where
  automodHolds_le : s.automodHolds ≤ s.messages
  actions : s.actions = (sinceStart calls).countP Call.isAction
  /-- The actions together fit in a word, too. -/
  actions_lt : s.actions < 2 ^ 64
  /-- A window is open if the last start or end was a start, since the time of that start. -/
  windowStart : ∀ now, s.windowStart = some now ↔
    (calls.filter Call.isBoundary).getLast? = some (.startWindow now)
  windowOpen : s.windowOpen = true ↔ ∃ now, (calls.filter Call.isBoundary).getLast? = some (.startWindow now)

theorem kept_run {calls : List Call} (h : calls.length < 2 ^ 64) : Kept (run {} calls) calls := by
  rw [run_eq_tally h]
  have hcounts := counts_tally calls
  refine ⟨hcounts, hcounts.automodHolds_le, hcounts.actions, ?_, windowStart_tally calls, ?_⟩
  · exact (hcounts.le_length.2.1.trans (length_sinceStart_le calls)).trans_lt h
  · rw [windowOpen, Option.isSome_iff_exists]
    exact exists_congr (windowStart_tally calls)

/-- Of fewer calls than a word can count, in any order, each finds the statistics that count the calls since the last
start of a window.  A summary tells just these, and so does the end of a window if one is open; an end leaves all
counters as they are, whether or not a window is open. -/
theorem lawful_run (calls : List Call) (h : calls.length < 2 ^ 64) :
    (∀ i : Nat, Kept (run {} (calls.take i)) (calls.take i)) ∧
    (∀ i : Nat, calls[i]? = some .summary → (answers {} calls)[i]? = some (.summary (run {} (calls.take i)))) ∧
    ∀ i : Nat, calls[i]? = some .endWindow →
      let before := run {} (calls.take i)
      (answers {} calls)[i]? = some (.closed (if before.windowOpen then some before else none)) ∧
        run {} (calls.take (i + 1)) = { before with windowStart := none } := by
  refine ⟨?_, ?_, ?_⟩
  · intro i
    exact kept_run ((List.length_take_le' i calls).trans_lt h)
  · intro i hi
    rw [getElem?_answers, hi]
    rfl
  · intro i hi before
    refine ⟨?_, ?_⟩
    · rw [getElem?_answers, hi, Option.map_some, serve, endWindow, windowOpen]
      cases before.windowStart <;> rfl
    · have hwords : before.inWords = before := inWords_run (calls.take i)
      rw [run_take_succ {} hi]
      exact congrArg (fun s : StreamStats => { s with windowStart := none }) hwords

/-- A message before the window does not count, a ban after its end does, and the second end finds no window. -/
theorem lawful_run_twoEnds :
    let calls : List Call :=
      [.message false, .startWindow 60000, .message true, .verdict .none, .verdict .delete, .endWindow, .verdict .ban,
        .endWindow]
    let inWindow : StreamStats := { messages := 1, automodHolds := 1, deletes := 1, windowStart := some 60000 }
    calls.length < 2 ^ 64 ∧ (answers {} calls)[5]? = some (.closed (some inWindow)) ∧
      (answers {} calls)[7]? = some (.closed none) ∧ (run {} calls).actions = 2 := by
  intro calls inWindow
  have hlength : calls.length < 2 ^ 64 := by decide
  obtain ⟨hkept, -, hends⟩ := lawful_run calls hlength
  refine ⟨hlength, ?_, ?_, ?_⟩
  · exact (hends 5 rfl).1
  · exact (hends 7 rfl).1
  · exact (hkept 8).actions

end ChatModeration.StreamStats
