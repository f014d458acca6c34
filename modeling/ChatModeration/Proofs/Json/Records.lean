import ChatModeration.Json.Decode
import Mathlib.Data.List.Nodup

/-!
# Records in JSON

A decoder that inverts a way of writing (`Decoder.Inverts`) reads every value back from its written form.  Lists are
read back if their items are, and a record is if each of its fields finds its member (`decode_record`).
-/

namespace ChatModeration

namespace Json

variable {α β : Type}

/-! ### Members of objects -/

theorem lookup_cons_eq (key : String) (value : α) (members : List (String × α)) (name : String) :
    ((key, value) :: members).lookup name = if name = key then some value else members.lookup name := by
  by_cases h : name = key
  · simp [h]
  · simp [List.lookup_cons, h, beq_eq_false_iff_ne.2 h]

theorem lookup_insertMember (key : String) (value : Json) (members : List (String × Json)) (name : String) :
    (insertMember key value members).lookup name = if name = key then some value else members.lookup name := by
  induction members with
  | nil => rw [insertMember, lookup_cons_eq]
  | cons m rest ih =>
    obtain ⟨k, v⟩ := m
    rw [insertMember, lookup_cons_eq k v]
    split
    · rw [lookup_cons_eq, lookup_cons_eq]
    · split
      · rename_i hk
        subst hk
        rw [lookup_cons_eq]
        split <;> rfl
      · rename_i hk
        rw [lookup_cons_eq, ih]
        by_cases h : name = k
        · rw [if_pos h, if_pos h, if_neg fun he => hk (he.symm.trans h)]
        · rw [if_neg h, if_neg h]

theorem lookup_foldl_insertMember (members sorted : List (String × Json)) (name : String) :
    (members.foldl (fun sorted m => insertMember m.1 m.2 sorted) sorted).lookup name =
      (members.reverse.lookup name).or (sorted.lookup name) := by
  induction members generalizing sorted with
  | nil => rfl
  | cons m rest ih =>
    obtain ⟨k, v⟩ := m
    rw [List.foldl_cons, ih, lookup_insertMember, List.reverse_cons, List.lookup_append, Option.or_assoc,
      lookup_cons_eq]
    split <;> rfl

theorem mem_of_lookup {members : List (String × α)} {key : String} {value : α} (h : members.lookup key = some value) :
    (key, value) ∈ members := by
  obtain ⟨before, after, rfl, -⟩ := List.lookup_eq_some_iff.1 h
  simp

theorem lookup_of_mem {members : List (String × Json)} (h : (members.map Prod.fst).Nodup) {m : String × Json}
    (hm : m ∈ members) : members.lookup m.1 = some m.2 := by
  obtain ⟨before, after, rfl⟩ := List.append_of_mem hm
  rw [List.map_append, List.map_cons, List.nodup_middle, List.nodup_cons, List.mem_append] at h
  refine List.lookup_eq_some_iff.2 ⟨before, after, rfl, fun other ho => ?_⟩
  exact bne_iff_ne.2 fun he => h.1 (.inl (he ▸ List.mem_map_of_mem ho))

/-- Each of some members is found under its key, and nothing is found under other keys. -/
structure Holds (sorted members : List (String × Json)) : Prop where
  found : ∀ m ∈ members, sorted.lookup m.1 = some m.2
  missing : ∀ key, key ∉ members.map Prod.fst → sorted.lookup key = none

/-- An object holds the members that it is made of, if they have different keys. -/
theorem holds_ofMembers {members : List (String × Json)} (h : (members.map Prod.fst).Nodup) :
    ∃ sorted, ofMembers members = .object sorted ∧ Holds sorted members := by
  refine ⟨_, rfl, fun m hm => ?_, fun key hkey => ?_⟩
  · have hreverse : (members.reverse.map Prod.fst).Nodup := by rwa [List.map_reverse, List.nodup_reverse]
    rw [lookup_foldl_insertMember, lookup_of_mem hreverse (List.mem_reverse.2 hm)]
    rfl
  · have hnone : members.reverse.lookup key = none := by
      rw [List.lookup_eq_none_iff]
      intro m hm
      exact bne_iff_ne.2 fun he => hkey (he ▸ List.mem_map_of_mem (List.mem_reverse.1 hm))
    rw [lookup_foldl_insertMember, hnone]
    rfl

theorem Holds.lookup_eq {sorted members : List (String × Json)} (hs : Holds sorted members)
    (h : (members.map Prod.fst).Nodup) (key : String) : sorted.lookup key = members.lookup key := by
  cases hv : members.lookup key with
  | none =>
    refine hs.missing key fun hkey => ?_
    obtain ⟨m, hm, rfl⟩ := List.mem_map.1 hkey
    exact absurd (hv.symm.trans (lookup_of_mem h hm)) nofun
  | some v => exact hs.found (key, v) (mem_of_lookup hv)

/-! ### Decoders -/

/-- Everything that is written this way is read back. -/
def Decoder.Inverts (d : Decoder α) (write : α → Json) : Prop := ∀ a, d.decode (write a) = .ok a

namespace Decoder

theorem inverts_text : text.Inverts Json.string := fun _ => rfl

theorem inverts_flag : flag.Inverts Json.bool := fun _ => rfl

theorem inverts_real : real.Inverts fun x => .number (.float x) := fun _ => rfl

theorem decode_optional {d : Decoder α} {v : Json} (h : v ≠ .null) :
    (optional d).decode v = (d.decode v).map some := by
  cases v with
  | null => exact absurd rfl h
  | _ => rfl

/-- Nothing is written as `null`, and so nothing else may be. -/
theorem inverts_optional {d : Decoder α} {write : α → Json} (h : d.Inverts write) (hne : ∀ a, write a ≠ .null) :
    (optional d).Inverts fun o => (o.map write).getD .null := by
  intro o
  cases o with
  | none => rfl
  | some a =>
    have ha : (d.decode (write a)).map some = .ok (some a) := by rw [h a]; rfl
    exact (decode_optional (hne a)).trans ha

theorem inverts_list {d : Decoder α} {write : α → Json} (h : d.Inverts write) :
    (list d).Inverts fun l => .array (l.map write) := by
  intro l
  have hitems : (l.map write).mapM d.decode = .ok l := by
    induction l with
    | nil => rfl
    | cons a l ih =>
      rw [List.map_cons, List.mapM_cons, h a, ih]
      rfl
  exact hitems

end Decoder

/-! ### Records -/

namespace Fields

theorem findIdx?_of_lookup {members : List (String × Json)} {name : String} {v : Json}
    (h : members.lookup name = some v) : ∃ i, members.findIdx? (fun m => m.1 == name) = some i := by
  rw [← Option.isSome_iff_exists, List.findIdx?_isSome, List.any_eq_true]
  exact ⟨_, mem_of_lookup h, beq_self_eq_true name⟩

/-- Some fields are read from members. -/
def Reads (fs : Fields α) (members : List (String × Json)) (a : α) : Prop := fs.ofMembers members = .ok a

/-- A field whose member can be decoded. -/
theorem reads_found {members : List (String × Json)} {name : String} {v : Json} {d : Decoder α} {default? : Option α}
    {a : α} (h : members.lookup name = some v) (hd : d.decode v = .ok a) : (field name d default?).Reads members a := by
  obtain ⟨i, hi⟩ := findIdx?_of_lookup h
  simp [Reads, field, hi, h, hd, Except.mapError]

/-- A field without member has its default. -/
theorem reads_absent {members : List (String × Json)} {name : String} {d : Decoder α} {a : α}
    (h : members.lookup name = Option.none) : (field name d (some a)).Reads members a := by
  simp [Reads, field, h]

section Holding

variable {sorted members : List (String × Json)} {name : String} (hs : Holds sorted members)

include hs

/-- A field whose value has been written into a member. -/
theorem reads_field {d : Decoder α} {write : α → Json} (hd : d.Inverts write) {default? : Option α} {a : α}
    (hm : (name, write a) ∈ members) : (field name d default?).Reads sorted a :=
  reads_found (hs.found _ hm) (hd a)

/-- A field that is left out. -/
theorem reads_missing {d : Decoder α} {a : α} (hm : name ∉ members.map Prod.fst) :
    (field name d (some a)).Reads sorted a :=
  reads_absent (hs.missing name hm)

end Holding

theorem Reads.seq {members : List (String × Json)} {f : Fields (α → β)} {x : Fields α} {g : α → β} {a : α}
    (hf : f.Reads members g) (hx : x.Reads members a) : (f <*> x).Reads members (g a) := by
  rw [Reads] at hf hx
  have hboth : (f <*> x).ofMembers members = (both f x).ofMembers members := rfl
  simp only [Reads, hboth, both, hf, hx]

theorem Reads.map {members : List (String × Json)} (g : α → β) {x : Fields α} {a : α} (hx : x.Reads members a) :
    (g <$> x).Reads members (g a) :=
  Reads.seq (f := none g) rfl hx

/-- A record is read back if its fields are read from members that are found under their keys. -/
theorem decode_record {fs : Fields α} (name : String) {members : List (String × Json)} {a : α}
    (hnodup : (members.map Prod.fst).Nodup) (h : ∀ sorted, Holds sorted members → fs.Reads sorted a) :
    (record name fs).decode (Json.ofMembers members) = .ok a := by
  obtain ⟨sorted, hobject, hsorted⟩ := holds_ofMembers hnodup
  rw [hobject]
  exact congrArg (Except.mapError FieldFault.error) (h sorted hsorted)

theorem decode_extendedRecord {own : Fields (β → α)} {further : Fields β} (name : String)
    {members : List (String × Json)} {f : β → α} {b : β} (hnodup : (members.map Prod.fst).Nodup)
    (h : ∀ sorted, Holds sorted members → own.Reads sorted f ∧ further.Reads sorted b) :
    (extendedRecord name own further).decode (Json.ofMembers members) = .ok (f b) := by
  obtain ⟨sorted, hobject, hsorted⟩ := holds_ofMembers hnodup
  obtain ⟨hown, hfurther⟩ := h sorted hsorted
  rw [Reads] at hown hfurther
  simp only [hobject, extendedRecord, hown, hfurther]

end Fields

end Json

end ChatModeration
