import ChatModeration.Json.Read
import ChatModeration.Proofs.Json.Lexeme

/-!
# Texts of values

An outline in which every array and object is closed (`Outline.Closed`) is read from every text that spells it
(`ofText_of_spells`), whatever blanks the text has, however its strings and numbers are written, and in whatever order
the members of its objects stand.  Where the numbers are in range, surrogates are paired and nothing is nested too deep
(`Outline.Accepted`), the outline has a value (`ofOutline_eq_value`).
-/

namespace ChatModeration.Json

namespace Outline

mutual

/-- Every array and object is closed. -/
def Closed : Outline → Prop
  | .array items ending => ending = .closed ∧ ClosedItems items
  | .object members cut => cut = none ∧ ClosedMembers members
  | .broken _ => False
  | _ => True

/-- Every item is closed. -/
def ClosedItems : List Outline → Prop
  | [] => True
  | o :: os => Closed o ∧ ClosedItems os

/-- The value of every member is closed. -/
def ClosedMembers : List (Option String × Outline) → Prop
  | [] => True
  | (_, o) :: os => Closed o ∧ ClosedMembers os

end

mutual

/-- The tokens of a closed outline. -/
def tokens : Outline → List Token
  | .null => [.null]
  | .bool b => [.bool b]
  | .number n => [.number n]
  | .string s => [.string s]
  | .array [] _ => [.openArray, .closeArray]
  | .array (o :: os) _ => .openArray :: (tokens o ++ furtherItems os)
  | .object [] _ => [.openObject, .closeObject]
  | .object ((key, o) :: os) _ => .openObject :: .string key :: .colon :: (tokens o ++ furtherMembers os)
  | .broken how => [.broken how]

/-- The tokens of further items, a comma before each, and of the end of the array. -/
def furtherItems : List Outline → List Token
  | [] => [.closeArray]
  | o :: os => .comma :: (tokens o ++ furtherItems os)

/-- The tokens of further members, a comma before each, and of the end of the object. -/
def furtherMembers : List (Option String × Outline) → List Token
  | [] => [.closeObject]
  | (key, o) :: os => .comma :: .string key :: .colon :: (tokens o ++ furtherMembers os)

end

/-- `o.Spells text`: the text says just what the outline says. -/
def Spells (o : Outline) (text : String) : Prop := o.Closed ∧ Spelled text.toList o.tokens

/-! ### Outlines of texts -/

/-- A value may stand at this place. -/
def ExpectsValue : List Open → Prop
  | [] | .array _ .firstItem :: _ | .array _ .item :: _ | .object _ (.value _) :: _ => True
  | _ => False

/-- How reading goes on when a value is finished. -/
def resume (opened : List Open) (v : Outline) (rest : List Token) : Outline × List Token :=
  match opened with
  | [] => (v, rest)
  | o :: outer => build (o.put v :: outer) rest

variable {opened : List Open} {rest : List Token}

/-- Where a value may stand, a token is the value or its beginning. -/
theorem step_of_expectsValue (h : ExpectsValue opened) {token : Token} (ht : token ≠ .closeArray) :
    step token opened = stepValue opened token := by
  unfold ExpectsValue at h
  split at h
  · rfl
  · cases token <;> first | rfl | exact absurd rfl ht
  · cases token <;> rfl
  · cases token <;> rfl
  · exact h.elim

theorem build_inside {token : Token} {opened' : List Open} (h : step token opened = .inside opened') :
    build opened (token :: rest) = build opened' rest := by
  rw [build, h]

theorem build_value {token : Token} {v : Outline} {outer : List Open} (h : step token opened = .value v outer) :
    build opened (token :: rest) = resume outer v rest := by
  rw [build, h]
  cases outer <;> rfl

theorem build_openArray (h : ExpectsValue opened) :
    build opened (.openArray :: rest) = build (.array [] .firstItem :: opened) rest :=
  build_inside (step_of_expectsValue h nofun)

theorem build_openObject (h : ExpectsValue opened) :
    build opened (.openObject :: rest) = build (.object [] .firstKey :: opened) rest :=
  build_inside (step_of_expectsValue h nofun)

/-- The key of a member and the colon after it. -/
theorem build_key {members : List (Option String × Outline)} {place : ObjectPlace} (key : Option String)
    (h : place = .firstKey ∨ place = .key) :
    build (.object members place :: opened) (.string key :: .colon :: rest) =
      build (.object members (.value key) :: opened) rest := by
  rcases h with rfl | rfl <;> rfl

mutual

/-- A closed outline is read from its tokens where a value may stand. -/
theorem build_tokens {opened : List Open} {rest : List Token} (o : Outline) (ho : o.Closed)
    (hplace : ExpectsValue opened) :
    build opened (o.tokens ++ rest) = resume opened o rest := by
  -- by recursion on the tree: the first item is read as a value of its own, the others after their commas
  match o with
  | .null => exact build_value (step_of_expectsValue hplace nofun)
  | .bool b => exact build_value (step_of_expectsValue hplace nofun)
  | .number n => exact build_value (step_of_expectsValue hplace nofun)
  | .string s => exact build_value (step_of_expectsValue hplace nofun)
  | .array [] ending =>
    obtain ⟨rfl, -⟩ := ho
    rw [tokens, List.cons_append, build_openArray hplace]
    exact build_value rfl
  | .array (o :: os) ending =>
    obtain ⟨rfl, ho, hos⟩ := ho
    rw [tokens, List.cons_append, build_openArray hplace, List.append_assoc, build_tokens o ho]
    · exact build_furtherItems [o] os hos
    · trivial
  | .object [] cut =>
    obtain ⟨rfl, -⟩ := ho
    rw [tokens, List.cons_append, build_openObject hplace]
    exact build_value rfl
  | .object ((key, o) :: os) cut =>
    obtain ⟨rfl, ho, hos⟩ := ho
    rw [tokens, List.cons_append, build_openObject hplace, List.cons_append, List.cons_append,
      build_key key (.inl rfl), List.append_assoc, build_tokens o ho]
    · exact build_furtherMembers [(key, o)] os hos
    · trivial
  | .broken how => exact ho.elim

theorem build_furtherItems {opened : List Open} {rest : List Token} (done os : List Outline) (hos : ClosedItems os) :
    build (.array done .afterItem :: opened) (furtherItems os ++ rest) =
      resume opened (.array (done.reverse ++ os) .closed) rest := by
  match os with
  | [] =>
    rw [List.append_nil]
    exact build_value rfl
  | o :: os =>
    rw [furtherItems, List.cons_append, build_inside rfl, List.append_assoc, build_tokens o hos.1]
    · rw [resume, Open.put, build_furtherItems (o :: done) os hos.2, List.reverse_cons, List.append_assoc]
      rfl
    · trivial

theorem build_furtherMembers {opened : List Open} {rest : List Token} (done os : List (Option String × Outline))
    (hos : ClosedMembers os) :
    build (.object done .afterValue :: opened) (furtherMembers os ++ rest) =
      resume opened (.object (done.reverse ++ os) none) rest := by
  match os with
  | [] =>
    rw [List.append_nil]
    exact build_value rfl
  | (key, o) :: os =>
    rw [furtherMembers, List.cons_append, build_inside rfl, List.cons_append, List.cons_append,
      build_key key (.inr rfl), List.append_assoc, build_tokens o hos.1]
    · rw [resume, Open.put, build_furtherMembers ((key, o) :: done) os hos.2, List.reverse_cons, List.append_assoc]
      rfl
    · trivial

end

/-- An outline is read from every text that spells it. -/
theorem ofText_of_spells {text : String} {o : Outline} (h : o.Spells text) : ofText text = (o, false) := by
  have hbuild : build [] (o.tokens ++ []) = (o, []) := build_tokens o h.1 trivial
  rw [List.append_nil] at hbuild
  rw [ofText, Json.tokens, tokensOf_of_spelled h.2, hbuild]
  rfl

mutual

/-- A closed outline is skipped. -/
theorem skip_of_closed (o : Outline) (h : o.Closed) : o.skip = .ok () := by
  match o with
  | .null | .bool _ | .number _ | .string _ => rfl
  | .array items ending =>
    obtain ⟨rfl, hitems⟩ := h
    rw [skip, skipItems_of_closed items hitems]
    rfl
  | .object members cut =>
    obtain ⟨rfl, hmembers⟩ := h
    rw [skip, skipMembers_of_closed members hmembers]
    rfl
  | .broken _ => exact h.elim

theorem skipItems_of_closed (os : List Outline) (h : ClosedItems os) : skipItems os = .ok () := by
  match os with
  | [] => rfl
  | o :: os =>
    rw [skipItems, skip_of_closed o h.1]
    exact skipItems_of_closed os h.2

theorem skipMembers_of_closed (os : List (Option String × Outline)) (h : ClosedMembers os) :
    skipMembers os = .ok () := by
  match os with
  | [] => rfl
  | (_, o) :: os =>
    rw [skipMembers, skip_of_closed o h.1]
    exact skipMembers_of_closed os h.2

end

/-! ### Values of outlines -/

mutual

/--
Where arrays and objects may be nested `depth` deep the outline is accepted: everything is closed, numbers are in range
and surrogates are paired.
-/
def Accepted : Nat → Outline → Prop
  | _, .null | _, .bool _ => True
  | _, .number n => n.isSome = true
  | _, .string s => s.isSome = true
  | depth + 1, .array items ending => ending = .closed ∧ AcceptedItems depth items
  | depth + 1, .object members cut => cut = none ∧ AcceptedMembers depth members
  | 0, .array _ _ | 0, .object _ _ | _, .broken _ => False

/-- Every item is accepted. -/
def AcceptedItems : Nat → List Outline → Prop
  | _, [] => True
  | depth, o :: os => Accepted depth o ∧ AcceptedItems depth os

/-- Every member is accepted. -/
def AcceptedMembers : Nat → List (Option String × Outline) → Prop
  | _, [] => True
  | depth, (key, o) :: os => key.isSome = true ∧ Accepted depth o ∧ AcceptedMembers depth os

end

mutual

/-- The value of an accepted outline. -/
def value : Outline → Json
  | .null | .number none | .string none | .broken _ => .null
  | .bool b => .bool b
  | .number (some n) => .number n
  | .string (some s) => .string s
  | .array items _ => .array (itemValues items)
  | .object members _ => .ofMembers (memberValues members)

/-- The values of some items. -/
def itemValues : List Outline → List Json
  | [] => []
  | o :: os => value o :: itemValues os

/-- The values of some members. -/
def memberValues : List (Option String × Outline) → List (String × Json)
  | [] => []
  | (key, o) :: os => (key.getD "", value o) :: memberValues os

end

mutual

/-- An accepted outline has its value. -/
theorem ofOutline_eq_value (depth : Nat) (o : Outline) (h : o.Accepted depth) : ofOutline depth o = .ok o.value := by
  match depth, o with
  | _, .null | _, .bool _ | _, .number (some _) | _, .string (some _) => rfl
  | _, .number none | _, .string none => cases h
  | 0, .array _ _ | 0, .object _ _ | _, .broken _ => exact h.elim
  | depth + 1, .array items ending =>
    obtain ⟨rfl, hitems⟩ := h
    rw [ofOutline, if_neg (Nat.succ_ne_zero depth), Nat.add_sub_cancel]
    dsimp only [bind, Except.bind, pure, Except.pure]
    rw [ofItems_eq_values depth items hitems]
    rfl
  | depth + 1, .object members cut =>
    obtain ⟨rfl, hmembers⟩ := h
    rw [ofOutline, if_neg (Nat.succ_ne_zero depth), Nat.add_sub_cancel]
    dsimp only [bind, Except.bind, pure, Except.pure]
    rw [ofOutlines_eq_values depth members hmembers]
    rfl

theorem ofItems_eq_values (depth : Nat) (os : List Outline) (h : AcceptedItems depth os) :
    ofItems depth os = .ok (itemValues os) := by
  match os with
  | [] => rfl
  | o :: os =>
    rw [ofItems, ofOutline_eq_value depth o h.1, ofItems_eq_values depth os h.2]
    rfl

theorem ofOutlines_eq_values (depth : Nat) (os : List (Option String × Outline)) (h : AcceptedMembers depth os) :
    ofOutlines depth os = .ok (memberValues os) := by
  match os with
  | [] => rfl
  | (none, _) :: _ => cases h.1
  | (some key, o) :: os =>
    rw [ofOutlines, ofOutline_eq_value depth o h.2.1, ofOutlines_eq_values depth os h.2.2]
    rfl

end

end Outline

end ChatModeration.Json
