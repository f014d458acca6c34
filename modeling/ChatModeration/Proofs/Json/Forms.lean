import ChatModeration.Proofs.Json.Layout
import ChatModeration.Proofs.Json.Records

/-!
# Forms of values

A form says which outlines stand for a thing: a text, a list of things of one form, or an object with different keys
(`IsObject`) under some of which things of certain forms are found (`Required`, `Defaulted`, `Perhaps`).  A form says
nothing about the order of the members of an object and about those under other keys.  A decoder that reads a form
(`Decoder.ReadsForm`) takes its things back from their outlines, and a record is read from every object in which its
fields are found (`decode_object`).
-/

namespace ChatModeration.Json

variable {α β : Type}

/-! ### Forms -/

/-- The object with the given members. -/
def objectOf (members : List (String × Outline)) : Outline := .object (members.map fun m => (some m.1, m.2)) none

/-- An object with the given members, all under different keys. -/
structure IsObject (members : List (String × Outline)) (o : Outline) : Prop where
  eq : o = objectOf members
  nodup : (members.map Prod.fst).Nodup

/-- A text. -/
def IsText (s : String) (o : Outline) : Prop := o = .string (some s)

/-- An array of things of one form. -/
def IsList (form : α → Outline → Prop) (as : List α) (o : Outline) : Prop :=
  ∃ items, o = .array items .closed ∧ List.Forall₂ form as items

/-- A thing that must be there. -/
def Required (form : α → Outline → Prop) (a : α) (found : Option Outline) : Prop := ∃ o, found = some o ∧ form a o

/-- A thing that may be missing if it is the default. -/
inductive Defaulted (form : α → Outline → Prop) (default : α) : α → Option Outline → Prop where
  | told {a : α} {o : Outline} (h : form a o) : Defaulted form default a (some o)
  | missing : Defaulted form default default none

/-- A thing, or none where `null` or nothing is there. -/
inductive Perhaps (form : α → Outline → Prop) : Option α → Option Outline → Prop where
  | told {a : α} {o : Outline} (h : form a o) : Perhaps form (some a) (some o)
  | null : Perhaps form none (some .null)
  | missing : Perhaps form none none

theorem forall_closed_of_closedMembers {members : List (String × Outline)}
    (h : Outline.ClosedMembers (members.map fun m => (some m.1, m.2))) : ∀ m ∈ members, m.2.Closed := by
  induction members with
  | nil => nofun
  | cons m members ih => exact List.forall_mem_cons.2 ⟨h.1, ih h.2⟩

/-- The values of the members of a closed object are closed. -/
theorem IsObject.closed {members : List (String × Outline)} {o : Outline} (h : IsObject members o)
    (hclosed : o.Closed) : ∀ m ∈ members, m.2.Closed := by
  rw [h.eq] at hclosed
  exact forall_closed_of_closedMembers hclosed.2

theorem memberValues_map (members : List (String × Outline)) :
    Outline.memberValues (members.map fun m => (some m.1, m.2)) = members.map fun m => (m.1, m.2.value) := by
  induction members with
  | nil => rfl
  | cons m members ih =>
    rw [List.map_cons, Outline.memberValues, ih]
    rfl

theorem lookup_map_value (members : List (String × Outline)) (key : String) :
    (members.map fun m => (m.1, m.2.value)).lookup key = (members.lookup key).map Outline.value := by
  induction members with
  | nil => rfl
  | cons m members ih =>
    obtain ⟨k, o⟩ := m
    rw [List.map_cons, List.lookup_cons, List.lookup_cons, ih]
    cases key == k <;> rfl

/-- The members of an object are found in its value. -/
theorem IsObject.lookup_value {members : List (String × Outline)} {o : Outline} (h : IsObject members o) :
    ∃ sorted, o.value = .object sorted ∧ ∀ key, sorted.lookup key = (members.lookup key).map Outline.value := by
  have hnodup : ((members.map fun m => (m.1, m.2.value)).map Prod.fst).Nodup := by
    rw [List.map_map]
    exact h.nodup
  obtain ⟨sorted, hobject, hsorted⟩ := holds_ofMembers hnodup
  refine ⟨sorted, ?_, fun key => ?_⟩
  · rw [h.eq, objectOf, Outline.value, memberValues_map, hobject]
  · rw [hsorted.lookup_eq hnodup, lookup_map_value]

theorem IsObject.value_ne_null {members : List (String × Outline)} {o : Outline} (h : IsObject members o) :
    o.value ≠ .null := by
  rw [h.eq]
  exact nofun

/-! ### Decoders of forms -/

/-- Everything of the form is read back. -/
def Decoder.ReadsForm (d : Decoder α) (form : α → Outline → Prop) : Prop :=
  ∀ a o, form a o → d.decode o.value = .ok a

namespace Decoder

theorem readsForm_text : text.ReadsForm IsText := by
  rintro s o rfl
  rfl

theorem readsForm_list {d : Decoder α} {form : α → Outline → Prop} (h : d.ReadsForm form) :
    (list d).ReadsForm (IsList form) := by
  rintro as o ⟨items, rfl, hitems⟩
  have hread : (Outline.itemValues items).mapM d.decode = .ok as := by
    induction hitems with
    | nil => rfl
    | cons ha _ ih =>
      rw [Outline.itemValues, List.mapM_cons, h _ _ ha, ih]
      rfl
  exact hread

end Decoder

namespace Fields

section Object

variable {sorted : List (String × Json)} {members : List (String × Outline)} {name : String} {d : Decoder α}
  {form : α → Outline → Prop} (hs : ∀ key, sorted.lookup key = (members.lookup key).map Outline.value)
  (hd : d.ReadsForm form)

include hs hd

theorem reads_required {a : α} (h : Required form a (members.lookup name)) : (required name d).Reads sorted a := by
  obtain ⟨o, ho, ha⟩ := h
  refine reads_found ?_ (hd a o ha)
  rw [hs, ho]
  rfl

theorem reads_defaulted {a default : α} (h : Defaulted form default a (members.lookup name)) :
    (defaulted name d default).Reads sorted a := by
  have hlookup := hs name
  generalize members.lookup name = found at h hlookup
  cases h with
  | told ha => exact reads_found hlookup (hd _ _ ha)
  | missing => exact reads_absent hlookup

theorem reads_perhaps {a : Option α} (hne : ∀ a o, form a o → o.value ≠ .null)
    (h : Perhaps form a (members.lookup name)) : (optional name d).Reads sorted a := by
  have hlookup := hs name
  generalize members.lookup name = found at h hlookup
  cases h with
  | null => exact reads_found hlookup rfl
  | missing => exact reads_absent hlookup
  | @told a o ha =>
    refine reads_found hlookup ((Decoder.decode_optional (hne a o ha)).trans ?_)
    rw [hd a o ha]
    rfl

end Object

/-- A record is read from an object if its fields are read from what is found under their keys. -/
theorem decode_object {fs : Fields α} (name : String) {members : List (String × Outline)} {o : Outline} {a : α}
    (ho : IsObject members o)
    (h : ∀ sorted, (∀ key, sorted.lookup key = (members.lookup key).map Outline.value) → fs.Reads sorted a) :
    (record name fs).decode o.value = .ok a := by
  obtain ⟨sorted, hobject, hsorted⟩ := ho.lookup_value
  rw [hobject]
  exact congrArg (Except.mapError FieldFault.error) (h sorted hsorted)

end Fields

end ChatModeration.Json
