import ChatModeration.Pattern.Reader
import ChatModeration.Proofs.Pattern.Captures
import ChatModeration.Proofs.Text.NormalForm
import Mathlib.Data.Nat.Find

/-!
# Links to channels

A link is what the pattern `linkSource` matches: an optional scheme and subdomain, the host, and the name of a channel,
which is captured.  No link begins within the scheme or the subdomain of another one (`skips_beforeHost`), since only a
host shows its first two letters.  So the names that are captured in the successive matches are those that are read from
left to right (`exists_captures`), and with them the advertised channel is determined (`advertised?_eq_some_iff`).
-/

namespace ChatModeration.Advertising

open Pattern (Expr CharSet Span Captures captured? sequence runLength leftmost)
open Text (caseVariants caseFold lowercase words)

variable {t : List Char} {c x y : Char} {a b : Expr} {i j k p : Nat}

/-! ### Letters -/

/-- The characters of which a link consists before the name of the channel. -/
def linkLetters : List Char := "https://www.m.twitch.tv/".toList

/-- The form of a character in which letter case makes no difference. -/
def plainForm (c : Char) : Char := if c.toNat < 0x80 then c.toLower else caseFold c

/-- Case folding maps capitals and characters beyond ASCII. -/
theorem first_of_mem_foldRows : ∀ row ∈ Text.foldRows,
    let r := Text.CaseShift.ofRow row
    r.first ≤ r.last ∧ ('A'.toNat ≤ r.first ∧ r.last ≤ 'Z'.toNat ∨ 0x80 ≤ r.first) := by
  decide +kernel

/-- The letters of a link are ASCII characters other than capitals. -/
theorem toNat_of_mem_linkLetters : ∀ x ∈ linkLetters,
    0 < x.toNat ∧ x.toNat < 0x80 ∧ (x.toNat < 'A'.toNat ∨ 'Z'.toNat < x.toNat) := by
  have hall : linkLetters.all (fun x => 0 < x.toNat ∧ x.toNat < 0x80 ∧
      (x.toNat < 'A'.toNat ∨ 'Z'.toNat < x.toNat)) = true := by decide +kernel
  exact fun x hx => of_decide_eq_true (List.all_eq_true.1 hall x hx)

theorem toNat_ofNat_of_pos {n : Nat} (h : 0 < (Char.ofNat n).toNat) : (Char.ofNat n).toNat = n := by
  by_cases hn : n.isValidChar
  · rw [Char.ofNat, dif_pos hn]
    rfl
  · rw [Char.ofNat, dif_neg hn] at h
    contradiction

/-- A character differs from a letter of a link at most in case only if the letter is its plain form. -/
theorem eq_plainForm_of_isVariantOf (hx : x ∈ linkLetters) (h : isVariantOf (· == x) c = true) : x = plainForm c := by
  have hmem : x ∈ caseVariants c := by
    obtain ⟨d, hd, heq⟩ := List.any_eq_true.1 h
    rwa [← eq_of_beq heq]
  unfold plainForm
  by_cases hascii : c.toNat < 0x80
  · have hcodes : ∀ n < 0x80, linkLetters.all (fun x =>
        x ∈ caseVariants (Char.ofNat n) → x = (Char.ofNat n).toLower) = true := by
      decide +kernel
    have hc := of_decide_eq_true (List.all_eq_true.1 (hcodes c.toNat hascii) x hx)
    rw [Char.ofNat_toNat] at hc
    rw [if_pos hascii]
    exact hc hmem
  · rw [if_neg hascii]
    rw [caseVariants, if_neg hascii] at hmem
    rcases List.mem_cons.1 hmem with heq | hfolded
    · exact heq
    · obtain ⟨n, hn, rfl⟩ := List.mem_map.1 hfolded
      obtain ⟨r, hr, hpreimage⟩ := List.mem_filterMap.1 hn
      obtain ⟨row, hrow, rfl⟩ := List.mem_map.1 (List.mem_toArray.1 (Array.mem_toList_iff.1 hr))
      rw [Text.CodeRange.preimage?] at hpreimage
      split at hpreimage
      · next hd =>
        have hn := Option.some.inj hpreimage
        obtain ⟨hpos, hascii, hsmall⟩ := toNat_of_mem_linkLetters _ hx
        rw [toNat_ofNat_of_pos hpos] at hascii hsmall
        obtain ⟨hle, hrow⟩ := first_of_mem_foldRows row hrow
        omega
      · cases hpreimage

/-- A position of a text shows a letter, in either case. -/
def Shows (t : List Char) (i : Nat) (x : Char) : Prop := ∃ c, t[i]? = some c ∧ isVariantOf (· == x) c = true

/-- A position shows one letter. -/
theorem Shows.unique (hx : x ∈ linkLetters) (hy : y ∈ linkLetters) (h : Shows t i x) (h' : Shows t i y) : x = y := by
  obtain ⟨c, hc, hvariant⟩ := h
  obtain ⟨d, hd, hvariant'⟩ := h'
  obtain rfl : c = d := Option.some.inj (hc.symm.trans hd)
  rw [eq_plainForm_of_isVariantOf hx hvariant, eq_plainForm_of_isVariantOf hy hvariant']

/-! ### The link expression -/

/-- The pattern of a link. -/
def linkSource : String := "(?i)(?:https?://)?(?:www\\.|m\\.)?twitch\\.tv/([a-z0-9_]\x7b3,25\x7d)"

/-- A letter without regard to case. -/
def letter (x : Char) : Expr := .char (.folded false (.single x))

/-- An expression that may be left out. -/
def atMostOnce (a : Expr) : Expr := .rep 0 (some 1) true a

/-- The letters of a text one after the other. -/
def letters (cs : List Char) : List Expr := cs.map letter

/-- The scheme of an address. -/
def scheme : Expr :=
  sequence (letters ['h', 't', 't', 'p'] ++ atMostOnce (letter 's') :: letters [':', '/']) (letter '/')

/-- The name of a host within its domain. -/
def subdomain : Expr := .alt (sequence (letters ['w', 'w', 'w']) (letter '.')) (sequence (letters ['m']) (letter '.'))

/-- The parts of a link before the name of the channel. -/
def linkOpening : List Expr := atMostOnce scheme :: atMostOnce subdomain :: letters linkHost

/-- The characters of channel names. -/
def nameSet : CharSet :=
  .folded false (.union (.union (.union .empty (.range 'a' 'z')) (.range '0' '9')) (.range '_' '_'))

/-- The name of the channel. -/
def linkName : Expr := .rep minNameLength (some maxNameLength) true (.char nameSet)

theorem read?_linkSource : Expr.read? {} linkSource = some (sequence linkOpening linkName) := by
  decide +kernel

theorem mem_single (x d : Char) : (CharSet.single x).mem d = (d == x) := by
  rw [Bool.eq_iff_iff, beq_iff_eq, CharSet.single, CharSet.mem, Bool.and_eq_true, decide_eq_true_eq, decide_eq_true_eq]
  constructor
  · intro hd
    exact Char.le_antisymm hd.2 hd.1
  · rintro rfl
    exact ⟨Char.le_refl d, Char.le_refl d⟩

theorem mem_letter (x c : Char) : (CharSet.folded false (.single x)).mem c = isVariantOf (· == x) c := by
  have hsingle : (CharSet.single x).mem = fun d => d == x := funext (mem_single x)
  rw [CharSet.mem, hsingle]
  rfl

theorem mem_nameSet (c : Char) : nameSet.mem c = isNameChar c := by
  have hset : ∀ d : Char,
      (CharSet.union (.union (.union .empty (.range 'a' 'z')) (.range '0' '9')) (.range '_' '_')).mem d =
        (('a' ≤ d && d ≤ 'z') || d.isDigit || d == '_') := by
    intro d
    rw [← mem_single '_' d]
    rfl
  rw [nameSet, isNameChar, isVariantOf, CharSet.mem, funext hset]
  rfl

/-! ### What stands before the host -/

theorem mem_ends_letter : j ∈ (letter x).ends t i ↔ Shows t i x ∧ j = i + 1 := by
  rw [letter, Pattern.ends_char, Shows]
  cases t[i]? with
  | none => simp
  | some c =>
    rw [Option.any_some, mem_letter]
    split
    · next hc => simp [hc]
    · next hc => simp [hc]

theorem mem_ends_cat : j ∈ (Expr.cat a b).ends t i ↔ ∃ k ∈ a.ends t i, j ∈ b.ends t k := List.mem_flatMap

theorem mem_ends_atMostOnce : j ∈ (atMostOnce a).ends t i ↔ j = i ∨ j ∈ a.ends t i := by
  have hends : (atMostOnce a).ends t i = Pattern.orStop true i ((a.ends t i).flatMap fun j => [j]) := rfl
  rw [hends, Pattern.mem_orStop, List.flatMap_singleton']

/-- A position shows the first two letters of the host. -/
def HostAt (t : List Char) (p : Nat) : Prop := Shows t p 't' ∧ Shows t (p + 1) 'w'

/-- What an expression matches shows the host nowhere. -/
def Skips (t : List Char) (a : Expr) : Prop := ∀ i, ∀ j ∈ a.ends t i, ∀ p, i ≤ p → p < j → ¬ HostAt t p

/-- Every match of an expression begins with a letter. -/
def Begins (t : List Char) (a : Expr) (x : Char) : Prop := ∀ i, ∀ j ∈ a.ends t i, Shows t i x

theorem begins_letter (t : List Char) (x : Char) : Begins t (letter x) x := fun _ _ hj => (mem_ends_letter.1 hj).1

theorem Begins.cat (h : Begins t a x) (b : Expr) : Begins t (.cat a b) x := by
  intro i j hj
  obtain ⟨k, hk, -⟩ := mem_ends_cat.1 hj
  exact h i k hk

theorem skips_empty (t : List Char) : Skips t .empty := by
  intro i j hj p hi hp
  obtain rfl := List.mem_singleton.1 hj
  omega

/-- A letter other than the first one of the host. -/
theorem skips_letter (hx : x ∈ linkLetters) (hne : x ≠ 't') : Skips t (letter x) := by
  intro i j hj p hi hp hhost
  obtain ⟨hshows, rfl⟩ := mem_ends_letter.1 hj
  obtain rfl : p = i := by omega
  exact hne (hshows.unique hx (by decide) hhost.1)

/-- The first letter of the host, before a letter other than the second one. -/
theorem skips_letter_cat (hx : x ∈ linkLetters) (hne : x ≠ 'w') (hbegins : Begins t a x) (h : Skips t a) :
    Skips t (.cat (letter 't') a) := by
  intro i j hj p hi hp hhost
  obtain ⟨k, hk, hj⟩ := mem_ends_cat.1 hj
  obtain ⟨-, rfl⟩ := mem_ends_letter.1 hk
  rcases Nat.eq_or_lt_of_le hi with rfl | hlt
  · exact hne ((hbegins _ j hj).unique hx (by decide) hhost.2)
  · exact h _ j hj p hlt hp hhost

namespace Skips

theorem cat (ha : Skips t a) (hb : Skips t b) : Skips t (.cat a b) := by
  intro i j hj p hi hp
  obtain ⟨k, hk, hj⟩ := mem_ends_cat.1 hj
  rcases Nat.lt_or_ge p k with hlt | hle
  · exact ha i k hk p hi hlt
  · exact hb k j hj p hle hp

theorem alt (ha : Skips t a) (hb : Skips t b) : Skips t (.alt a b) := by
  intro i j hj
  rcases List.mem_append.1 hj with hj | hj
  · exact ha i j hj
  · exact hb i j hj

theorem atMostOnce (h : Skips t a) : Skips t (atMostOnce a) := by
  intro i j hj p hi hp
  rcases mem_ends_atMostOnce.1 hj with rfl | hj
  · omega
  · exact h i j hj p hi hp

/-- Letters other than the first one of the host. -/
theorem sequence {cs : List Char} (hcs : cs ⊆ linkLetters) (hne : 't' ∉ cs) (h : Skips t a) :
    Skips t (Pattern.sequence (letters cs) a) := by
  induction cs with
  | nil => exact h
  | cons x cs ih =>
    obtain ⟨hx, hcs⟩ := List.cons_subset.1 hcs
    have hx' : Skips t (letter x) := skips_letter hx (List.ne_of_not_mem_cons hne).symm
    exact hx'.cat (ih hcs (List.not_mem_of_not_mem_cons hne))

end Skips

theorem skips_scheme (t : List Char) : Skips t scheme := by
  have hrest : Skips t (sequence (letters [':', '/']) (letter '/')) :=
    .sequence (by decide) (by decide) (skips_letter (by decide) (by decide))
  have hs : Skips t (letter 's') := skips_letter (by decide) (by decide)
  have hp : Skips t (.cat (letter 'p') (.cat (atMostOnce (letter 's')) (sequence (letters [':', '/']) (letter '/')))) :=
    (skips_letter (by decide) (by decide)).cat (hs.atMostOnce.cat hrest)
  -- in the scheme the first letter of the host stands before itself and before another letter
  have htp := skips_letter_cat (by decide) (by decide) ((begins_letter t 'p').cat _) hp
  have http := skips_letter_cat (by decide) (by decide) ((begins_letter t 't').cat _) htp
  exact (skips_letter (by decide) (by decide)).cat http

theorem skips_subdomain (t : List Char) : Skips t subdomain :=
  .alt (.sequence (by decide) (by decide) (skips_letter (by decide) (by decide)))
    (.sequence (by decide) (by decide) (skips_letter (by decide) (by decide)))

/-! ### Links at a position -/

theorem afterHost_cons (x : Char) (host : List Char) (i : Nat) :
    afterHost (x :: host) (t.drop i) =
      if (t[i]?).any (isVariantOf (· == x)) = true then afterHost host (t.drop (i + 1)) else none := by
  cases hc : t[i]? with
  | none =>
    rw [List.drop_eq_nil_iff.2 (List.getElem?_eq_none_iff.1 hc)]
    rfl
  | some c => rw [Pattern.drop_eq_cons hc, afterHost, Option.any_some]

theorem any_isVariantOf_iff : (t[i]?).any (isVariantOf (· == x)) = true ↔ Shows t i x := by
  cases hc : t[i]? <;> simp [Shows, hc]

/-- The letters of a host end where what follows the host begins. -/
theorem mem_ends_letters {host : List Char} :
    j ∈ (sequence (letters host) .empty).ends t i ↔
      afterHost host (t.drop i) = some (t.drop j) ∧ j = i + host.length := by
  induction host generalizing i with
  | nil =>
    have hends : (sequence (letters []) .empty).ends t i = [i] := rfl
    rw [hends, List.mem_singleton, afterHost]
    constructor
    · rintro rfl
      exact ⟨rfl, rfl⟩
    · exact And.right
  | cons x host ih =>
    have hends : j ∈ (sequence (letters (x :: host)) .empty).ends t i ↔
        Shows t i x ∧ j ∈ (sequence (letters host) .empty).ends t (i + 1) := by
      refine mem_ends_cat.trans ⟨?_, fun ⟨hshows, hj⟩ => ⟨i + 1, mem_ends_letter.2 ⟨hshows, rfl⟩, hj⟩⟩
      rintro ⟨k, hk, hj⟩
      obtain ⟨hshows, rfl⟩ := mem_ends_letter.1 hk
      exact ⟨hshows, hj⟩
    rw [hends, ih, afterHost_cons, List.length_cons]
    by_cases hshows : Shows t i x
    · rw [if_pos (any_isVariantOf_iff.2 hshows), and_iff_right hshows]
      exact and_congr_right fun _ => by omega
    · rw [if_neg (any_isVariantOf_iff.not.2 hshows)]
      exact iff_of_false (fun h => hshows h.1) nofun

/-- What follows a host lies behind its letters. -/
theorem afterHost_eq_drop {host rest : List Char} (h : afterHost host (t.drop i) = some rest) :
    rest = t.drop (i + host.length) := by
  induction host generalizing i with
  | nil => exact (Option.some.inj h).symm
  | cons x host ih =>
    rw [afterHost_cons] at h
    split at h
    · rw [ih h, List.length_cons]
      congr 1
      omega
    · cases h

/-- A host shows its first two letters. -/
theorem hostAt_of_afterHost {rest : List Char} (h : afterHost linkHost (t.drop p) = some rest) : HostAt t p := by
  have hhost : linkHost = 't' :: 'w' :: "itch.tv/".toList := by decide +kernel
  rw [hhost, afterHost_cons] at h
  split at h
  · next ht =>
    rw [afterHost_cons] at h
    split at h
    · next hw => exact ⟨any_isVariantOf_iff.1 ht, any_isVariantOf_iff.1 hw⟩
    · cases h
  · cases h

/-- After a host, the name of a link is what the repetition of name characters prefers. -/
theorem linkAt?_eq (h : afterHost linkHost (t.drop i) = some (t.drop j)) :
    linkAt? (t.drop i) = ((linkName.ends t j).head?).map fun k => (Span.part t ⟨j, k⟩, t.drop k) := by
  have hlength : runLength t nameSet maxNameLength j =
      (((t.drop j).take maxNameLength).takeWhile isNameChar).length := by
    rw [runLength, funext mem_nameSet]
  have hname : ((t.drop j).take maxNameLength).takeWhile isNameChar =
      (t.drop j).take (runLength t nameSet maxNameLength j) := by
    rw [hlength]
    exact List.prefix_iff_eq_take.1 ((List.takeWhile_prefix _).trans (List.take_prefix _ _))
  rw [linkAt?, h, linkName, Pattern.head?_ends_repeat (by decide)]
  dsimp only
  rw [← hlength, hname]
  split
  · rw [Option.map_some, Span.part, Nat.add_sub_cancel_left, List.drop_drop]
  · rfl

/-- The name of a link is not empty. -/
theorem lt_of_head?_linkName (h : (linkName.ends t j).head? = some k) : j < k := by
  have hpos : 0 < minNameLength := by decide
  rw [linkName, Pattern.head?_ends_repeat (by decide)] at h
  split at h
  · have hk := Option.some.inj h
    omega
  · cases h

/-- The parts of a link before its host. -/
def beforeHost : Expr := sequence [atMostOnce scheme, atMostOnce subdomain] .empty

theorem mem_ends_opening :
    j ∈ (sequence linkOpening .empty).ends t i ↔
      ∃ h ∈ beforeHost.ends t i, j ∈ (sequence (letters linkHost) .empty).ends t h := by
  have hopening : sequence linkOpening .empty =
      sequence [atMostOnce scheme, atMostOnce subdomain] (sequence (letters linkHost) .empty) := rfl
  rw [hopening, Pattern.ends_sequence, List.mem_flatMap]
  rfl

theorem skips_beforeHost (t : List Char) : Skips t beforeHost :=
  (skips_scheme t).atMostOnce.cat ((skips_subdomain t).atMostOnce.cat (skips_empty t))

/-- What a link captures is the name of the link at its host, and before the host no other one begins. -/
theorem linkAt?_of_captured {span : Span} (h : captured? t linkOpening linkName i = some span) :
    ∃ host, i ≤ host ∧ (∀ p, i ≤ p → p < host → ¬ HostAt t p) ∧
      linkAt? (t.drop host) = some (span.part t, t.drop span.stop) ∧ host < span.stop ∧ span.stop ≤ t.length := by
  obtain ⟨j, hj, hspan⟩ := List.exists_of_findSome?_eq_some h
  obtain ⟨k, hk, rfl⟩ := Option.map_eq_some_iff.1 hspan
  obtain ⟨host, hhost, hj⟩ := mem_ends_opening.1 hj
  obtain ⟨hafter, rfl⟩ := mem_ends_letters.1 hj
  have hi := (Pattern.within_ends t beforeHost i host hhost).1
  have hlt := lt_of_head?_linkName hk
  have hwithin := (Pattern.within_ends t linkName _ k (List.mem_of_mem_head? hk)).2
  refine ⟨host, hi, skips_beforeHost t i host hhost, ?_, ?_, ?_⟩
  · rw [linkAt?_eq hafter, hk]
    rfl
  · exact Nat.lt_of_le_of_lt (Nat.le_add_right host _) hlt
  · exact hwithin.resolve_left (Nat.ne_of_gt hlt)

/-- A link begins with its host. -/
theorem afterHost_of_linkAt? {link : List Char × List Char} (h : linkAt? (t.drop i) = some link) :
    afterHost linkHost (t.drop i) = some (t.drop (i + linkHost.length)) := by
  cases hafter : afterHost linkHost (t.drop i) with
  | none =>
    rw [linkAt?, hafter] at h
    cases h
  | some rest => rw [afterHost_eq_drop hafter]

/-- Where a link begins with its host, it is matched. -/
theorem captured?_ne_none {link : List Char × List Char} (h : linkAt? (t.drop i) = some link) :
    captured? t linkOpening linkName i ≠ none := by
  have hafter := afterHost_of_linkAt? h
  have hbefore : i ∈ beforeHost.ends t i :=
    mem_ends_cat.2 ⟨i, mem_ends_atMostOnce.2 (.inl rfl), mem_ends_cat.2 ⟨i, mem_ends_atMostOnce.2 (.inl rfl),
      List.mem_singleton_self i⟩⟩
  have hopening := mem_ends_opening.2 ⟨i, hbefore, mem_ends_letters.2 ⟨hafter, rfl⟩⟩
  intro hnone
  have hname := List.findSome?_eq_none_iff.1 hnone _ hopening
  rw [linkAt?_eq hafter, Option.map_eq_none_iff.1 hname] at h
  cases h

/-! ### All links of a text -/

theorem linkNames_of_none {cs : List Char} (h : linkAt? (c :: cs) = none) : linkNames (c :: cs) = linkNames cs := by
  rw [linkNames]
  split
  · next hsome => rw [h] at hsome; cases hsome
  · rfl

theorem linkNames_of_some {cs name rest : List Char} (h : linkAt? (c :: cs) = some (name, rest)) :
    linkNames (c :: cs) = name :: linkNames rest := by
  rw [linkNames]
  split
  · next hsome =>
    rw [h] at hsome
    cases hsome
    rfl
  · next hnone => rw [h] at hnone; cases hnone

/-- No name is captured from a position on if no link begins there. -/
theorem captured?_eq_none (h : ∀ p, i ≤ p → linkAt? (t.drop p) = none) (start : Nat) (hi : i ≤ start) :
    captured? t linkOpening linkName start = none := by
  cases hspan : captured? t linkOpening linkName start with
  | none => rfl
  | some span =>
    obtain ⟨host, hhost, -, hlink, -⟩ := linkAt?_of_captured hspan
    rw [h host (by omega)] at hlink
    cases hlink

/--
The first match from a position on captures the name of the first link.  It may begin before the host of the link, but
after no other one.
-/
theorem exists_first_match {name rest : List Char} (hi : i ≤ j)
    (hnone : ∀ p, i ≤ p → p < j → linkAt? (t.drop p) = none) (hlink : linkAt? (t.drop j) = some (name, rest)) :
    ∃ start span, i ≤ start ∧ start ≤ j ∧ (∀ p, i ≤ p → p < start → captured? t linkOpening linkName p = none) ∧
      captured? t linkOpening linkName start = some span ∧ span.part t = name ∧ t.drop span.stop = rest ∧
      j < span.stop ∧ span.stop ≤ t.length := by
  have hmatched : ∃ s, i ≤ s ∧ captured? t linkOpening linkName s ≠ none := ⟨j, hi, captured?_ne_none hlink⟩
  obtain ⟨his, hs⟩ := Nat.find_spec hmatched
  have hle : Nat.find hmatched ≤ j := Nat.find_min' hmatched ⟨hi, captured?_ne_none hlink⟩
  have hfirst : ∀ p, i ≤ p → p < Nat.find hmatched → captured? t linkOpening linkName p = none := fun p hp hlt =>
    not_not.1 fun hne => Nat.find_min hmatched hlt ⟨hp, hne⟩
  obtain ⟨span, hspan⟩ := Option.ne_none_iff_exists'.1 hs
  obtain ⟨host, hhost, hskips, hlink', hlt, hstop⟩ := linkAt?_of_captured hspan
  have heq : host = j := by
    rcases Nat.lt_trichotomy host j with hbefore | heq | hafter
    · -- no link begins before the first one
      rw [hnone host (Nat.le_trans his hhost) hbefore] at hlink'
      cases hlink'
    · exact heq
    · exact absurd (hostAt_of_afterHost (afterHost_of_linkAt? hlink)) (hskips j hle hafter)
  subst heq
  rw [hlink] at hlink'
  obtain ⟨rfl, rfl⟩ := Prod.mk.inj (Option.some.inj hlink')
  exact ⟨_, span, his, hle, hfirst, hspan, rfl, rfl, hlt, hstop⟩

/--
The captured names of the links are those that are read from left to right.  The search may begin at an earlier
position than the reading, as before a scheme, if no link begins in between.
-/
theorem exists_captures (j i : Nat) (hi : i ≤ j) (hj : j ≤ t.length)
    (hnone : ∀ p, i ≤ p → p < j → linkAt? (t.drop p) = none) :
    ∃ spans, Captures t linkOpening linkName i spans ∧ spans.map (Span.part t) = linkNames (t.drop j) := by
  -- on what is left to be read; behind a link the search and the reading are at the same position again
  induction hn : t.length - j using Nat.strongRecOn generalizing j i with
  | _ n ih =>
    cases hdrop : t.drop j with
    | nil =>
      refine ⟨[], .nil (captured?_eq_none fun p hp => ?_), ?_⟩
      · rcases Nat.lt_or_ge p j with hlt | hle
        · exact hnone p hp hlt
        · rw [List.drop_eq_nil_iff.2 (Nat.le_trans (List.drop_eq_nil_iff.1 hdrop) hle)]
          rfl
      · rw [linkNames]
        rfl
    | cons c cs =>
      have hlt : j < t.length := by
        have hlength := congrArg List.length hdrop
        rw [List.length_drop, List.length_cons] at hlength
        omega
      have hcs : cs = t.drop (j + 1) := by rw [← List.drop_drop, hdrop, List.drop_one, List.tail_cons]
      cases hlink : linkAt? (c :: cs) with
      | none =>
        have hnone' : ∀ p, i ≤ p → p < j + 1 → linkAt? (t.drop p) = none := by
          intro p hp hlt'
          rcases Nat.lt_succ_iff_lt_or_eq.1 hlt' with hp' | rfl
          · exact hnone p hp hp'
          · rw [hdrop, hlink]
        rw [linkNames_of_none hlink, hcs]
        exact ih (t.length - (j + 1)) (by omega) (j + 1) i (by omega) hlt hnone' rfl
      | some link =>
        obtain ⟨name, rest⟩ := link
        rw [linkNames_of_some hlink]
        rw [← hdrop] at hlink
        obtain ⟨start, span, hstart, hle, hfirst, hspan, rfl, rfl, hbehind, hstop⟩ := exists_first_match hi hnone hlink
        obtain ⟨spans, hspans, hnames⟩ := ih (t.length - span.stop) (by omega) span.stop span.stop (Nat.le_refl _) hstop
          (fun p hp hlt' => absurd hp (Nat.not_le_of_lt hlt')) rfl
        refine ⟨span :: spans, .cons hstart (by omega) hfirst hspan hspans, ?_⟩
        rw [List.map_cons, hnames]

/-! ### Advertising -/

/-- The channels whose names are captured in a text, without a given one. -/
def otherChannels (text channel : String) (spans : List Span) : List String :=
  (spans.map fun span => lowercase (String.ofList (span.part text.toList))).filter (· != channel)

theorem otherChannels_eq {text channel : String} {spans : List Span}
    (h : spans.map (Span.part text.toList) = linkNames text.toList) :
    otherChannels text channel spans = (linkedChannels text).filter (· != channel) := by
  rw [otherChannels, linkedChannels, ← h, List.map_map]
  rfl

/-- A phrase that has been made ready is found in a normalized text when its words stand there next to one another. -/
theorem phraseOccursIn_of_mem_promoPhrases {c : Config} {phrase : String}
    (h : phrase ∈ (Snapshot.compile c).promoPhrases) (text : String) :
    Text.phraseOccursIn phrase (Text.normalize text) = true ↔ words phrase <:+: words (Text.normalize text) := by
  obtain ⟨hphrase, hne⟩ := List.mem_filter.1 h
  obtain ⟨raw, -, rfl⟩ := List.mem_map.1 hphrase
  exact Text.phraseOccursIn_normalize (Text.words_normalize_eq_nil_iff.not.2 (by simpa using hne))

/--
The pattern of a link is read as a sequence of parts, the last of which is the name of the channel.  In a text it
captures determined names; of those that are not the current channel, in lowercase, the first one is advertised if one
of them is the login of the sender in lowercase, or if the login is a token of the message, or if the tokens of a
promotional phrase stand next to one another in the message.
-/
theorem advertised?_eq_some_iff (c : Config) (id userId login text : String) (details : List ChatMessage.Detail) :
    let m := (ChatMessage.ofText id userId login text).withDetails details
    Expr.read? {} linkSource = some (sequence linkOpening linkName) ∧
      ∃ spans, Captures text.toList linkOpening linkName 0 spans ∧
        (∀ others, Captures text.toList linkOpening linkName 0 others → others = spans) ∧
        ∀ channel advertised : String,
          advertised? m channel (Snapshot.compile c).promoPhrases = some advertised ↔
            (otherChannels text channel spans).head? = some advertised ∧
              (lowercase login ∈ otherChannels text channel spans ∨ lowercase login ∈ m.tokens ∨
                ∃ phrase ∈ (Snapshot.compile c).promoPhrases, words phrase <:+: m.tokens) := by
  intro m
  have hm : m.Retains (.ofText id userId login text) :=
    (ChatMessage.retains_ofText id userId login text).withDetails details
  have htext : m.text = text := hm.text.trans (ChatMessage.text_ofText id userId login text)
  have hnormalized : m.normalized = Text.normalize text := by rw [hm.normalized, htext]
  have htokens : m.tokens = words (Text.normalize text) := by rw [hm.tokens, hnormalized]
  have hlogin : m.userLogin = login := hm.userLogin
  have hphrases : (∃ phrase ∈ (Snapshot.compile c).promoPhrases, Text.phraseOccursIn phrase m.normalized = true) ↔
      ∃ phrase ∈ (Snapshot.compile c).promoPhrases, words phrase <:+: m.tokens := by
    rw [hnormalized, htokens]
    exact exists_congr fun phrase => and_congr_right fun hphrase => phraseOccursIn_of_mem_promoPhrases hphrase text
  obtain ⟨spans, hspans, hnames⟩ := exists_captures (t := text.toList) 0 0 (Nat.le_refl 0) (Nat.zero_le _)
    fun p _ hp => absurd hp (Nat.not_lt_zero p)
  refine ⟨read?_linkSource, spans, hspans, fun others h => hspans.unique h, fun channel advertised => ?_⟩
  simp only [advertised?_eq, hphrases, htext, hlogin, otherChannels_eq hnames]
  split
  · next h => exact (and_iff_left h).symm
  · next h => exact iff_of_false nofun fun hnamed => h hnamed.2

/-- The sender's own channel is linked in capitals after another one, and behind a scheme and a subdomain. -/
example :
    let m := ChatMessage.ofText "m1" "7" "someone" "twitch.tv/other https://www.twitch.tv/SOMEONE"
    advertised? m "streamer" [] = some "other" := by
  decide +kernel

end ChatModeration.Advertising
