import ChatModeration.Proofs.Pattern.Ways
import Mathlib.Data.List.TakeWhile

/-!
# The match that is found

A search follows many threads at once, in order of preference.  Of the threads at a position the first one that can be
finished decides (`best`); one step of all threads keeps what will be decided (`best_advance`), and so does leaving out
threads that repeat an earlier one (`best_distinct`).  Hence a search finds the preferred match of those that begin at
the first position where one begins (`find_eq_leftmost`).
-/

namespace ChatModeration.Pattern

variable {t : List Char} {i : Nat}

/-! ### Threads -/

/-- The match in which a thread ends. -/
def Thread.match? (t : List Char) (i : Nat) (thread : Thread) : Option Span :=
  (thread.rest.ends t i).findSome? fun j => some ⟨thread.start, j⟩

/-- The match in which the first of some threads ends that ends in one. -/
def best (t : List Char) (i : Nat) (threads : List Thread) : Option Span := threads.findSome? (Thread.match? t i)

theorem best_append (threads others : List Thread) :
    best t i (threads ++ others) = (best t i threads).or (best t i others) :=
  List.findSome?_append

theorem best_cons (thread : Thread) (threads : List Thread) :
    best t i (thread :: threads) = (thread.match? t i).or (best t i threads) := by
  rw [best, List.findSome?_cons, best]
  cases thread.match? t i <;> rfl

theorem best_singleton (thread : Thread) : best t i [thread] = thread.match? t i := by
  rw [best_cons, best, List.findSome?_nil, Option.or_none]

/-- Whether a thread ends in a match does not depend on where it began. -/
theorem Thread.match?_eq_none {thread other : Thread} (hrest : other.rest = thread.rest)
    (h : thread.match? t i = none) : other.match? t i = none := by
  rw [match?, List.findSome?_eq_none_iff] at h ⊢
  rw [hrest]
  exact fun j hj => absurd (h j hj) nofun

/-- Threads that repeat an earlier one decide nothing. -/
theorem best_distinct (threads : List Thread) : best t i (distinct threads) = best t i threads := by
  induction threads with
  | nil => rfl
  | cons thread threads ih =>
    rw [distinct, best_cons, best_cons, ← ih]
    cases hmatch : thread.match? t i with
    | some span => rfl
    | none =>
      rw [Option.none_or, Option.none_or]
      generalize distinct threads = rest
      clear ih
      induction rest with
      | nil => rfl
      | cons other rest ih =>
        by_cases hother : other.rest = thread.rest
        · rw [List.filter_cons_of_neg (by simpa using hother), ih, best_cons,
            Thread.match?_eq_none hother hmatch, Option.none_or]
        · rw [List.filter_cons_of_pos (by simpa using hother), best_cons, best_cons, ih]

/-! ### One step -/

/-- The threads in which some ways go on with a character. -/
def goOn (start : Nat) (after : Option Char) (ways : List Way) : List Thread :=
  ways.filterMap fun way =>
    match way, after with
    | .take set rest, some c => if set.mem c then some ⟨start, rest⟩ else none
    | _, _ => none

/-- Ways that take a character lead where their threads lead from the next position. -/
theorem best_goOn (start : Nat) {ways : List Way} (h : Way.finished ∉ ways) :
    best t (i + 1) (goOn start t[i]? ways) =
      (ways.flatMap (Way.ends t i)).findSome? fun j => some (Span.mk start j) := by
  induction ways with
  | nil => rfl
  | cons way ways ih =>
    obtain ⟨hway, hways⟩ : way ≠ .finished ∧ .finished ∉ ways := by simpa [eq_comm] using h
    rw [List.flatMap_cons, List.findSome?_append, ← ih hways]
    cases way with
    | finished => contradiction
    | take set rest =>
      simp only [goOn, Way.ends, List.filterMap_cons]
      cases t[i]? with
      | none => rfl
      | some c =>
        by_cases hset : set.mem c = true
        · simp only [if_pos hset]
          exact best_cons _ _
        · simp only [if_neg hset]
          rfl

/-- One step of a thread: it goes on in preferred ways, or else it is finished here. -/
theorem match?_eq_of_finished {thread : Thread} {before after : List Way}
    (hways : thread.rest.ways (charBefore t i) t[i]? = before ++ .finished :: after) (h : .finished ∉ before) :
    thread.match? t i = (best t (i + 1) (goOn thread.start t[i]? before)).or (some ⟨thread.start, i⟩) := by
  rw [Thread.match?, ← alike_ways thread.rest, hways, List.flatMap_append, List.findSome?_append, best_goOn _ h]
  rfl

theorem match?_eq_of_not_finished {thread : Thread}
    (h : .finished ∉ thread.rest.ways (charBefore t i) t[i]?) :
    thread.match? t i = best t (i + 1) (goOn thread.start t[i]? (thread.rest.ways (charBefore t i) t[i]?)) := by
  rw [best_goOn _ h, Thread.match?, ← alike_ways thread.rest]

theorem takeWhile_finished {ways : List Way} (h : .finished ∈ ways) :
    ∃ after, ways = ways.takeWhile (· != .finished) ++ .finished :: after := by
  induction ways with
  | nil => contradiction
  | cons way ways ih =>
    by_cases hway : way = .finished
    · subst hway
      exact ⟨ways, rfl⟩
    · obtain ⟨after, hafter⟩ := ih ((List.mem_cons.1 h).resolve_left (Ne.symm hway))
      refine ⟨after, ?_⟩
      rw [List.takeWhile_cons_of_pos (by simpa using hway), List.cons_append, ← hafter]

theorem not_mem_takeWhile_finished (ways : List Way) : .finished ∉ ways.takeWhile (· != .finished) := fun h => by
  simpa using List.mem_takeWhile_imp h

/-- A step of all threads keeps what they decide. -/
theorem best_advance (threads : List Thread) :
    best t i threads = (best t (i + 1) (advance (charBefore t i) t[i]? threads).1).or
      ((advance (charBefore t i) t[i]? threads).2.map fun start => ⟨start, i⟩) := by
  induction threads with
  | nil => rfl
  | cons thread threads ih =>
    have hadvance : advance (charBefore t i) t[i]? (thread :: threads) =
        let ways := thread.rest.ways (charBefore t i) t[i]?
        let next := goOn thread.start t[i]? (ways.takeWhile (· != .finished))
        if ways.contains .finished then (next, some thread.start)
        else
          let others := advance (charBefore t i) t[i]? threads
          (next ++ others.1, others.2) := rfl
    rw [hadvance, best_cons]
    dsimp only
    split
    · next hfinished =>
      obtain ⟨after, hways⟩ := takeWhile_finished (List.contains_iff_mem.1 hfinished)
      rw [match?_eq_of_finished hways (not_mem_takeWhile_finished _), Option.or_assoc]
      rfl
    · next hfinished =>
      have hnone : .finished ∉ thread.rest.ways (charBefore t i) t[i]? := fun h =>
        hfinished (List.contains_iff_mem.2 h)
      have hall : (thread.rest.ways (charBefore t i) t[i]?).takeWhile (· != .finished) =
          thread.rest.ways (charBefore t i) t[i]? :=
        List.takeWhile_eq_self_iff.2 fun way hway => by
          simpa using fun heq : way = .finished => hnone (heq ▸ hway)
      rw [hall, match?_eq_of_not_finished hnone, best_append, Option.or_assoc, ← ih]

/-! ### The whole search -/

/-- The preferred match of those that begin at the first position, from `i` on, where one begins. -/
def leftmost (t : List Char) (e : Expr) (i : Nat) : Option Span :=
  (List.range' i (t.length + 1 - i)).findSome? fun start => Thread.match? t start ⟨start, e⟩

theorem leftmost_eq (e : Expr) (h : i ≤ t.length) :
    leftmost t e i = (Thread.match? t i ⟨i, e⟩).or (leftmost t e (i + 1)) := by
  have hlength : t.length + 1 - i = (t.length + 1 - (i + 1)) + 1 := by omega
  rw [leftmost, hlength, List.range'_succ, List.findSome?_cons, leftmost]
  cases Thread.match? t i ⟨i, e⟩ <;> rfl

theorem leftmost_length_succ (e : Expr) : leftmost t e (t.length + 1) = none := by
  rw [leftmost, Nat.sub_self]
  rfl

/-- The threads at a position, with a new one where no match has been found. -/
def entered (e : Expr) (i : Nat) (threads : List Thread) (found : Option Span) : List Thread :=
  if found.isNone then threads ++ [⟨i, e⟩] else threads

theorem best_entered (e : Expr) (h : i ≤ t.length) (threads : List Thread) (found : Option Span) :
    (best t i threads).or (found.or (leftmost t e i)) =
      (best t i (entered e i threads found)).or (found.or (leftmost t e (i + 1))) := by
  cases found with
  | none =>
    have hentered : entered e i threads none = threads ++ [⟨i, e⟩] := rfl
    rw [hentered, best_append, best_singleton, Option.none_or, Option.none_or, leftmost_eq e h, Option.or_assoc]
  | some span => rfl

/-- At the end of a text a match that ends there takes the place of the one found before. -/
theorem findFrom_nil (e : Expr) (before : Option Char) (threads : List Thread) (found : Option Span) :
    findFrom e before i threads found [] =
      ((advance before none (entered e i threads found)).2.map fun start => Span.mk start i).or found := by
  rw [findFrom, entered]
  generalize (advance before none _).2 = ended
  cases ended <;> rfl

/-- A match that ends at a position takes the place of the one found before; the search ends if no thread goes on. -/
theorem findFrom_cons (e : Expr) (before : Option Char) (threads : List Thread) (found : Option Span) (c : Char)
    (cs : List Char) :
    findFrom e before i threads found (c :: cs) =
      let step := advance before (some c) (distinct (entered e i threads found))
      let found := (step.2.map fun start => Span.mk start i).or found
      if found.isSome ∧ step.1.isEmpty then found else findFrom e (some c) (i + 1) step.1 found cs := by
  rw [findFrom, entered]
  dsimp only
  generalize advance before (some c) _ = step
  obtain ⟨next, ended⟩ := step
  cases ended <;> rfl

/-- At the end of a text no thread goes on. -/
theorem advance_none (before : Option Char) (threads : List Thread) : (advance before none threads).1 = [] := by
  have hnone : ∀ (start : Nat) (ways : List Way), goOn start none ways = [] := by
    intro start ways
    induction ways with
    | nil => rfl
    | cons way ways ih => cases way <;> exact ih
  induction threads with
  | nil => rfl
  | cons thread threads ih =>
    rw [advance]
    dsimp only
    split
    · exact hnone _ _
    · rw [ih, List.append_nil]
      exact hnone _ _

/-- From any position on, the threads decide first, then the match found so far, then later matches. -/
theorem findFrom_eq (e : Expr) {cs : List Char} (threads : List Thread) (found : Option Span) (hcs : t.drop i = cs)
    (hi : i ≤ t.length) :
    findFrom e (charBefore t i) i threads found cs = (best t i threads).or (found.or (leftmost t e i)) := by
  induction cs generalizing i threads found with
  | nil =>
    have hlength : i = t.length := Nat.le_antisymm hi (List.drop_eq_nil_iff.1 hcs)
    have hafter : t[i]? = none := List.getElem?_eq_none (Nat.le_of_eq hlength.symm)
    rw [findFrom_nil, best_entered e hi, best_advance, hafter, advance_none, hlength, leftmost_length_succ,
      Option.or_none]
    rfl
  | cons c cs ih =>
    have hafter : t[i]? = some c := by
      rw [← Nat.add_zero i, ← List.getElem?_drop, hcs]
      rfl
    have hlt : i < t.length := (List.getElem?_eq_some_iff.1 hafter).1
    have hrest : t.drop (i + 1) = cs := by rw [← List.drop_drop, hcs, List.drop_one, List.tail_cons]
    have hbefore : charBefore t (i + 1) = some c := hafter
    have hstep := best_advance (t := t) (i := i) (distinct (entered e i threads found))
    rw [hafter, best_distinct] at hstep
    rw [findFrom_cons, best_entered e hi, hstep, ← hbefore]
    generalize advance (charBefore t i) (charBefore t (i + 1)) (distinct (entered e i threads found)) = step
    obtain ⟨next, ended⟩ := step
    dsimp only
    rw [Option.or_assoc, ← @Option.or_assoc _ _ found]
    split
    · next hdone =>
      obtain ⟨span, hspan⟩ := Option.isSome_iff_exists.1 hdone.1
      rw [hspan, List.isEmpty_iff.1 hdone.2]
      rfl
    · exact ih next _ hrest hlt

/-- The match that is found begins at the first position where one begins, and is the preferred one there. -/
theorem find_eq_leftmost (e : Expr) (text : String) : find e text = leftmost text.toList e 0 := by
  have hfind := findFrom_eq (t := text.toList) (i := 0) e [] none rfl (Nat.zero_le _)
  exact hfind

/-- A text is matched as a whole if of the matches at its beginning the preferred one is the whole text. -/
theorem isWholeMatch_iff {e : Expr} {text : String} :
    isWholeMatch e text = true ↔ (e.ends text.toList 0).head? = some text.toList.length := by
  rw [isWholeMatch, beq_iff_eq, find_eq_leftmost, leftmost_eq e (Nat.zero_le _), ← String.length_toList]
  cases hends : e.ends text.toList 0 with
  | nil =>
    have hnone : Thread.match? text.toList 0 ⟨0, e⟩ = none := by rw [Thread.match?, hends]; rfl
    rw [hnone, Option.none_or]
    -- a later match begins later
    have hlater : leftmost text.toList e 1 ≠ some ⟨0, text.toList.length⟩ := by
      intro hsome
      obtain ⟨start, hstart, hmatch⟩ := List.exists_of_findSome?_eq_some hsome
      obtain ⟨stop, -, hstop⟩ := List.exists_of_findSome?_eq_some hmatch
      have hzero : start = 0 := congrArg Span.start (Option.some.inj hstop)
      have hone := (List.mem_range'_1.1 hstart).1
      omega
    exact iff_of_false hlater nofun
  | cons stop rest =>
    have hsome : Thread.match? text.toList 0 ⟨0, e⟩ = some ⟨0, stop⟩ := by rw [Thread.match?, hends]; rfl
    rw [hsome, Option.some_or, List.head?_cons]
    simp

end ChatModeration.Pattern
