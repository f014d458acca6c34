import ChatModeration.Proofs.Config.Limits
import ChatModeration.Proofs.Pattern.Reading
import ChatModeration.Proofs.Pattern.Search
import ChatModeration.Rule.Matcher

/-!
# Patterns that must match the whole message

An exact pattern is tried once, at the beginning of the compared text, and its preferred match decides.  So a message is
matched if the first of the ends of all matches there is the end of the text (`isMatch_exact_iff`).  Where a shorter
match is preferred, as by an alternative that begins a later one, the whole text is not matched although the expression
can match it (`preferred_match_too_short`).
-/

namespace ChatModeration.Matcher

open Pattern (Expr Matches)

variable {source body : String} {options : RuleOptions} {m : Matcher} {e : Expr}

/-- A pattern that can be used has an expression in which the bounds of all repetitions are in order. -/
theorem pattern_of_compile (h : compile source options = .ok m) : ∃ body e, m = .pattern body e ∧ e.WellFormed := by
  rw [compile] at h
  split at h
  · cases h
  · next body letters hsplit =>
    obtain ⟨flags, -, h⟩ := Config.bind_eq_ok h
    split at h
    · next e hread =>
      cases h
      exact ⟨_, e, rfl, Pattern.wellFormed_of_read? hread⟩
    · cases h

/-- An exact pattern matches a message that the other options let through if its preferred match is the whole text. -/
theorem isMatch_pattern_exact {message : ChatMessage} (hexact : options.exact = true)
    (hone : options.oneWord = true → (comparedTokens options message).length = 1) :
    isMatch (.pattern body e) options message = Pattern.isWholeMatch e (comparedText options message) := by
  have hpass : (options.oneWord && (comparedTokens options message).length != 1) = false := by
    cases hword : options.oneWord with
    | false => rfl
    | true => rw [hone hword]; rfl
  rw [isMatch, hpass, hexact]
  rfl

/--
An exact pattern matches a message that the other options let through just if, of all matches at the beginning of the
compared text, the preferred one ends with the text.  The ends that are listed are those of all matches; so the
expression can match all of the text if it does, and it does if the expression can match all of the text and no shorter
beginning of it.
-/
theorem isMatch_exact_iff (message : ChatMessage) (h : compile source options = .ok m) (hexact : options.exact = true)
    (hone : options.oneWord = true → (comparedTokens options message).length = 1) :
    let t := (comparedText options message).toList
    ∃ body e, m = .pattern body e ∧ (∀ i j, j ∈ e.ends t i ↔ Matches t e i j) ∧
      (isMatch m options message = true ↔ (e.ends t 0).head? = some t.length) ∧
      (isMatch m options message = true → Matches t e 0 t.length) ∧
      (Matches t e 0 t.length → (∀ j, Matches t e 0 j → j = t.length) → isMatch m options message = true) := by
  intro t
  obtain ⟨body, e, rfl, hwell⟩ := pattern_of_compile h
  have hends : ∀ i j, j ∈ e.ends t i ↔ Matches t e i j := fun i j => Pattern.mem_ends_iff hwell
  have hiff : isMatch (.pattern body e) options message = true ↔ (e.ends t 0).head? = some t.length := by
    rw [isMatch_pattern_exact hexact hone]
    exact Pattern.isWholeMatch_iff
  refine ⟨body, e, rfl, hends, hiff, fun hmatch => ?_, fun hwhole honly => ?_⟩
  · exact (hends 0 _).1 (List.mem_of_mem_head? (hiff.1 hmatch))
  · have hmem := (hends 0 _).2 hwhole
    obtain ⟨j, rest, hlist⟩ := List.exists_cons_of_ne_nil (List.ne_nil_of_mem hmem)
    have hj : j = t.length := honly j ((hends 0 j).1 (hlist ▸ List.mem_cons_self))
    rw [hiff, hlist, hj, List.head?_cons]

/-- The pattern `ab|a` prefers to match all of a message of one word. -/
theorem isMatch_exact_longer_first :
    let options : RuleOptions := { exact := true, oneWord := true }
    let message := ChatMessage.ofText "m1" "7" "7" "AB "
    ∃ m, compile "ab|a" options = .ok m ∧ (comparedTokens options message).length = 1 ∧
      isMatch m options message = true := by
  intro options message
  have hcompile : compile "ab|a" options = .ok (.pattern "ab|a" (.alt (.cat (.char (.folded false (.range 'a' 'a')))
      (.char (.folded false (.range 'b' 'b')))) (.char (.folded false (.range 'a' 'a'))))) := by cbv
  have htokens : (comparedTokens options message).length = 1 := by decide +kernel
  obtain ⟨body, e, hm, -, hiff, -⟩ := isMatch_exact_iff message hcompile rfl fun _ => htokens
  obtain ⟨-, rfl⟩ := Matcher.pattern.inj hm
  exact ⟨_, hcompile, htokens, hiff.2 (by decide +kernel)⟩

/-- The pattern `a|ab` can match all of `ab`, but prefers to match the `a` only. -/
theorem preferred_match_too_short :
    let options : RuleOptions := { exact := true }
    let message := ChatMessage.ofText "m1" "7" "7" "ab"
    ∃ e, compile "a|ab" options = .ok (.pattern "a|ab" e) ∧ Matches (comparedText options message).toList e 0 2 ∧
      isMatch (.pattern "a|ab" e) options message = false := by
  intro options message
  have hcompile : compile "a|ab" options = .ok (.pattern "a|ab" (.alt (.char (.folded false (.range 'a' 'a')))
      (.cat (.char (.folded false (.range 'a' 'a'))) (.char (.folded false (.range 'b' 'b')))))) := by cbv
  refine ⟨_, hcompile, ?_, by decide +kernel⟩
  rw [← Pattern.mem_ends_iff (by simp [Expr.WellFormed])]
  decide +kernel

end ChatModeration.Matcher
