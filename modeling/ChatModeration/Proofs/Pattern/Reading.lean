import ChatModeration.Pattern.Reader
import ChatModeration.Proofs.Pattern.Ends

/-!
# Expressions that are read have their bounds in order

A counted repetition is only read if its bounds are in order (`le_of_readBounds`), and the other repetitions have bounds
that are.  Every step keeps this for all that the open groups hold, so it is true of the whole expression
(`wellFormed_of_read?`).
-/

namespace ChatModeration.Text

variable {σ α : Type} {step : σ → List Char → Option (Next σ α × List Char)}

/-- What every step keeps, and what follows from it for a result, is true of the result of a scan. -/
theorem of_scan (Kept : σ → Prop) {Result : α → Prop}
    (hmore : ∀ {state cs next rest}, Kept state → step state cs = some (.more next, rest) → Kept next)
    (hdone : ∀ {state cs a rest}, Kept state → step state cs = some (.done a, rest) → Result a)
    {state : σ} {cs rest : List Char} {a : α} (hstate : Kept state) (h : scan step state cs = some (a, rest)) :
    Result a := by
  fun_induction scan step state cs with
  | case1 => cases h
  | case2 state cs result left hstep =>
    cases h
    exact hdone hstate hstep
  | case3 state cs next left hstep hlt ih => exact ih (hmore hstate hstep) h
  | case4 => cases h

end ChatModeration.Text

namespace ChatModeration.Pattern

/-! ### What the open groups hold -/

theorem Expr.WellFormed.followedBy {a b : Expr} (ha : a.WellFormed) (hb : b.WellFormed) :
    (a.followedBy b).WellFormed := by
  unfold Expr.followedBy
  split
  · exact hb
  · exact ⟨ha, hb⟩

/-- A part in which the bounds of all repetitions are in order. -/
def Part.WellFormed : Part → Prop
  | .expr e => e.WellFormed
  | .setting => True

/-- A group in which the bounds of all repetitions are in order. -/
structure Group.WellFormed (g : Group) : Prop where
  parts : ∀ part ∈ g.parts, part.WellFormed
  branches : ∀ e ∈ g.branches, e.WellFormed

/-- A state in which the bounds of all repetitions are in order. -/
def State.WellFormed (s : State) : Prop := ∀ g ∈ s.groups, g.WellFormed

/-- A step after which the bounds of all repetitions are in order. -/
def StepWellFormed : Text.Next State Expr → Prop
  | .more s => s.WellFormed
  | .done e => e.WellFormed

namespace Group

variable {g : Group} {e : Expr}

theorem wellFormed_new (flags : Flags) : (Group.mk flags [] []).WellFormed := ⟨nofun, nofun⟩

/-- Parts that follow each other make an expression whose bounds are in order. -/
theorem WellFormed.sequence (h : g.WellFormed) : g.sequence.WellFormed := by
  refine List.foldlRecOn (motive := Expr.WellFormed) g.parts _ trivial ?_
  intro after hafter part hpart
  cases part with
  | setting => exact hafter
  | expr e =>
    have he : e.WellFormed := h.parts _ hpart
    dsimp only
    split
    · exact he
    · exact he.followedBy hafter

theorem WellFormed.value (h : g.WellFormed) : g.value.WellFormed :=
  List.foldlRecOn (motive := Expr.WellFormed) g.branches _ h.sequence
    fun _ hafter branch hbranch => ⟨h.branches branch hbranch, hafter⟩

theorem WellFormed.push (h : g.WellFormed) (he : e.WellFormed) : (g.push e).WellFormed :=
  ⟨List.forall_mem_cons.2 ⟨he, h.parts⟩, h.branches⟩

/-- A group after an alternative is finished. -/
theorem WellFormed.branch (h : g.WellFormed) :
    ({ g with parts := [], branches := g.sequence :: g.branches } : Group).WellFormed :=
  ⟨nofun, List.forall_mem_cons.2 ⟨h.sequence, h.branches⟩⟩

/-- A group after a change of flags. -/
theorem WellFormed.setting (h : g.WellFormed) (flags : Flags) :
    ({ g with flags, parts := .setting :: g.parts } : Group).WellFormed :=
  ⟨List.forall_mem_cons.2 ⟨trivial, h.parts⟩, h.branches⟩

theorem WellFormed.repeatLast {g' : Group} {min : Nat} {max : Option Nat} {lazy : Bool} (h : g.WellFormed)
    (hbounds : ∀ n ∈ max, min ≤ n) (hrepeat : g.repeatLast min max lazy = some g') : g'.WellFormed := by
  rw [Group.repeatLast] at hrepeat
  split at hrepeat
  · next e parts hparts =>
    obtain rfl := Option.some.inj hrepeat
    obtain ⟨he, hrest⟩ := List.forall_mem_cons.1 (hparts ▸ h.parts)
    exact ⟨List.forall_mem_cons.2 ⟨⟨hbounds, he⟩, hrest⟩, h.branches⟩
  · cases hrepeat

end Group

/-! ### Steps -/

/-- The bounds of a counted repetition are read only if they are in order. -/
theorem le_of_readBounds {flags : Flags} {cs rest : List Char} {min : Nat} {max : Option Nat}
    (h : readBounds flags cs = some (min, max, rest)) : ∀ n ∈ max, min ≤ n := by
  obtain ⟨⟨min', rest'⟩, -, h⟩ := Option.bind_eq_some_iff.1 h
  dsimp only at h
  split at h
  · cases h
    rintro n ⟨⟩
    exact Nat.le_refl _
  · split at h
    · cases h
      nofun
    · obtain ⟨⟨max', rest''⟩, -, h⟩ := Option.bind_eq_some_iff.1 h
      dsimp only at h
      split at h
      · split at h
        · next hle =>
          cases h
          rintro n ⟨⟩
          exact hle
        · cases h
      · cases h
  · cases h

/-- The innermost open group and the groups around it. -/
theorem State.WellFormed.innermost {s : State} {g : Group} {outer : List Group} (h : s.WellFormed)
    (hgroups : s.groups = g :: outer) : g.WellFormed ∧ ∀ p ∈ outer, p.WellFormed := by
  rw [State.WellFormed, hgroups] at h
  exact List.forall_mem_cons.1 h

theorem State.WellFormed.openGroup {s : State} (h : s.WellFormed) (flags : Flags) : (s.openGroup flags).WellFormed :=
  List.forall_mem_cons.2 ⟨Group.wellFormed_new flags, h⟩

theorem State.WellFormed.readGroup {s s' : State} {g : Group} {outer : List Group} {cs rest : List Char}
    (h : s.WellFormed) (hgroups : s.groups = g :: outer) (hread : readGroup s g outer cs = some (s', rest)) :
    s'.WellFormed := by
  obtain ⟨hg, houter⟩ := h.innermost hgroups
  rw [Pattern.readGroup] at hread
  split at hread
  · cases hread
  · cases hread
  · cases hread
  · cases hread
  · obtain ⟨⟨name, left⟩, -, hread⟩ := Option.bind_eq_some_iff.1 hread
    cases hread
    exact h.openGroup _
  · obtain ⟨⟨name, left⟩, -, hread⟩ := Option.bind_eq_some_iff.1 hread
    cases hread
    exact h.openGroup _
  · obtain ⟨⟨flags, empty, ending, left⟩, -, hread⟩ := Option.bind_eq_some_iff.1 hread
    dsimp only at hread
    split at hread
    · cases hread
      exact h.openGroup _
    · split at hread
      · cases hread
      · cases hread
        exact List.forall_mem_cons.2 ⟨hg.setting flags, houter⟩
  · cases hread
    exact h.openGroup _

theorem Flags.wellFormed_dot {e : Expr} (flags : Flags) (h : flags.dot = some e) : e.WellFormed := by
  rw [Flags.dot] at h
  split at h
  · cases h
  · split at h <;> cases h <;> trivial

/-- A step keeps the bounds in order, and so they are in what it ends with. -/
theorem State.WellFormed.patternStep {s : State} {cs rest : List Char} {next : Text.Next State Expr}
    (h : s.WellFormed) (hstep : patternStep s cs = some (next, rest)) : StepWellFormed next := by
  rw [Pattern.patternStep] at hstep
  split at hstep
  · cases hstep
  · next g outer hgroups =>
    obtain ⟨hg, houter⟩ := h.innermost hgroups
    have hgo : ∀ {g' : Group}, g'.WellFormed → State.WellFormed { s with groups := g' :: outer } :=
      fun hg' => List.forall_mem_cons.2 ⟨hg', houter⟩
    have hpush : ∀ {e : Expr}, e.WellFormed → State.WellFormed { s with groups := g.push e :: outer } :=
      fun he => hgo (hg.push he)
    have hturns : ∀ {min : Nat} {max : Option Nat} {left : List Char}, (∀ n ∈ max, min ≤ n) →
        ((g.repeatLast min max (readLazy left).1).bind fun g' =>
          some (Text.Next.more (α := Expr) { s with groups := g' :: outer }, (readLazy left).2)) = some (next, rest) →
        StepWellFormed next := by
      intro min max left hbounds hturns
      obtain ⟨g', hrepeat, hturns⟩ := Option.bind_eq_some_iff.1 hturns
      cases hturns
      exact hgo (hg.repeatLast hbounds hrepeat)
    dsimp only at hstep
    -- in the order of the reader: the end, groups, alternatives, classes, repetitions, escapes and single characters
    split at hstep
    · split at hstep
      · cases hstep
        exact hg.value
      · cases hstep
    · obtain ⟨⟨s', left⟩, hread, hstep⟩ := Option.map_eq_some_iff.1 hstep
      cases hstep
      exact h.readGroup hgroups hread
    · split at hstep
      · cases hstep
      · cases hstep
        obtain ⟨hp, hps⟩ := List.forall_mem_cons.1 houter
        exact List.forall_mem_cons.2 ⟨hp.push hg.value, hps⟩
    · cases hstep
      exact hgo hg.branch
    · obtain ⟨⟨set, left⟩, -, hstep⟩ := Option.bind_eq_some_iff.1 hstep
      cases hstep
      exact hpush trivial
    · exact hturns (fun _ _ => Nat.zero_le _) hstep
    · exact hturns (by simp) hstep
    · exact hturns (by simp) hstep
    · obtain ⟨⟨min, max, left⟩, hbounds, hstep⟩ := Option.bind_eq_some_iff.1 hstep
      exact hturns (le_of_readBounds hbounds) hstep
    · obtain ⟨⟨item, left⟩, -, hstep⟩ := Option.bind_eq_some_iff.1 hstep
      cases hstep
      exact hpush (by cases item <;> trivial)
    · obtain ⟨e, he, hstep⟩ := Option.bind_eq_some_iff.1 hstep
      cases hstep
      exact hpush (g.flags.wellFormed_dot he)
    · cases hstep
      exact hpush trivial
    · cases hstep
      exact hpush trivial
    · cases hstep
      exact hpush trivial

/-- The expression of a pattern has the bounds of all its repetitions in order. -/
theorem wellFormed_of_read? {flags : Flags} {source : String} {e : Expr} (h : Expr.read? flags source = some e) :
    e.WellFormed := by
  obtain ⟨⟨a, rest⟩, hscan, rfl⟩ := Option.map_eq_some_iff.1 h
  refine Text.of_scan State.WellFormed (fun hs hstep => hs.patternStep hstep)
    (fun hs hstep => hs.patternStep hstep) ?_ hscan
  exact List.forall_mem_cons.2 ⟨Group.wellFormed_new flags, nofun⟩

end ChatModeration.Pattern
