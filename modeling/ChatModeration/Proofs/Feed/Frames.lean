import ChatModeration.Feed.Frame
import ChatModeration.Proofs.Json.Forms

/-!
# Frames read back

A record of two fields is read whatever the order of its members and whatever else is among them (`Pair.read_object`).
So a frame that brings a notification is read however it is written (`read_frame`); of its own other members, and of
those of what it says about itself, nothing is asked but that they are JSON.
-/

namespace ChatModeration.Feed

open Json (Outline IsObject IsText Required Perhaps)

/-! ### Records of two fields -/

namespace Pair

variable {α β : Type}

/--
What is known of a field after some members, if `found` was known before: what is read from its member, which must be
the first one, or else nothing more.
-/
def After (read : Outline → Except DecodeError α) (name : String) (members : List (String × Outline))
    (found result : Option α) : Prop :=
  match members.lookup name with
  | none => result = found
  | some o => found = none ∧ ∃ a, read o = .ok a ∧ result = some a

variable {p : Pair α β} {members : List (String × Outline)}

theorem after_cons_eq {read : Outline → Except DecodeError α} {name : String} {o : Outline} {found result : Option α}
    (hmem : name ∉ members.map Prod.fst) (h : After read name ((name, o) :: members) found result) :
    ∃ a, found = none ∧ read o = .ok a ∧ After read name members (some a) result := by
  have hnone : members.lookup name = none := by
    rw [List.lookup_eq_none_iff]
    exact fun m hm => bne_iff_ne.2 fun heq => hmem (heq ▸ List.mem_map_of_mem hm)
  rw [After, Json.lookup_cons_eq, if_pos rfl] at h
  obtain ⟨hfound, a, hread, hresult⟩ := h
  refine ⟨a, hfound, hread, ?_⟩
  rw [After, hnone]
  exact hresult

theorem after_cons_ne {read : Outline → Except DecodeError α} {name key : String} {o : Outline}
    {found result : Option α} (hne : name ≠ key) (h : After read name ((key, o) :: members) found result) :
    After read name members found result := by
  rwa [After, Json.lookup_cons_eq, if_neg hne] at h

theorem after_required {form : α → Outline → Prop} {read : Outline → Except DecodeError α} {name : String} {a : α}
    (h : Required form a (members.lookup name)) (hread : ∀ o, form a o → read o = .ok a) :
    After read name members none (some a) := by
  obtain ⟨o, ho, ha⟩ := h
  rw [After, ho]
  exact ⟨rfl, a, hread o ha, rfl⟩

/-- The members of a record are read in any order and among any others. -/
theorem readMembers_eq (hnames : p.firstName ≠ p.secondName) (hnodup : (members.map Prod.fst).Nodup)
    (hskip : ∀ m ∈ members, m.2.skip = .ok ()) {first : Option α} {second second' : Option β} {a : α}
    (hfirst : After p.readFirst p.firstName members first (some a))
    (hsecond : After p.readSecond p.secondName members second second') :
    p.readMembers first second none (members.map fun m => (some m.1, m.2)) =
      .ok (a, second'.getD p.secondDefault) := by
  induction members generalizing first second with
  | nil =>
    obtain rfl : some a = first := hfirst
    obtain rfl : second' = second := hsecond
    rfl
  | cons m members ih =>
    obtain ⟨key, o⟩ := m
    rw [List.map_cons, List.nodup_cons] at hnodup
    obtain ⟨hskipped, hothers⟩ := List.forall_mem_cons.1 hskip
    rw [List.map_cons, readMembers]
    -- the member is the first field, the second one or none; its key does not come again
    split
    · next hkey =>
      subst hkey
      obtain ⟨b, rfl, hread, hfirst⟩ := after_cons_eq hnodup.1 hfirst
      rw [hread]
      exact ih hnodup.2 hothers hfirst (after_cons_ne hnames.symm hsecond)
    · next hkey =>
      split
      · next hkey' =>
        subst hkey'
        obtain ⟨b, rfl, hread, hsecond⟩ := after_cons_eq hnodup.1 hsecond
        rw [hread]
        exact ih hnodup.2 hothers (after_cons_ne hnames hfirst) hsecond
      · next hkey' =>
        rw [hskipped]
        exact ih hnodup.2 hothers (after_cons_ne (Ne.symm hkey) hfirst) (after_cons_ne (Ne.symm hkey') hsecond)

/-- A record is read from a closed object. -/
theorem read_object {o : Outline} (hnames : p.firstName ≠ p.secondName) (ho : IsObject members o) (hclosed : o.Closed)
    {a : α} {second : Option β} (hfirst : After p.readFirst p.firstName members none (some a))
    (hsecond : After p.readSecond p.secondName members none second) :
    p.read o = .ok (a, second.getD p.secondDefault) := by
  rw [ho.eq, Json.objectOf, read]
  exact readMembers_eq hnames ho.nodup (fun m hm => m.2.skip_of_closed (ho.closed hclosed m hm)) hfirst hsecond

end Pair

/-! ### Frames -/

/-- What a frame says about itself: its kind and, perhaps, the kind of the subscription. -/
def IsMetadata (kind : String) (told : Option String) (o : Outline) : Prop :=
  ∃ members, IsObject members o ∧ Required IsText kind (members.lookup "message_type") ∧
    Perhaps IsText told (members.lookup "subscription_type")

/-- A frame that brings a notification with the given payload. -/
def IsFrame (told : Option String) (payload o : Outline) : Prop :=
  ∃ members, IsObject members o ∧ Required (IsMetadata "notification") told (members.lookup "metadata") ∧
    members.lookup "payload" = some payload

theorem readText_of_isText {s : String} {o : Outline} (h : IsText s o) : readText o = .ok s := by
  rw [h]
  rfl

theorem read_metadata {kind : String} {told : Option String} {o : Outline} (h : IsMetadata kind told o)
    (hclosed : o.Closed) : metadata.read o = .ok (kind, told) := by
  obtain ⟨members, ho, hkind, htold⟩ := h
  have hfirst : Pair.After readText "message_type" members none (some kind) :=
    Pair.after_required hkind fun _ => readText_of_isText
  have hsecond : ∃ second, Pair.After readOptionalText "subscription_type" members none second ∧
      second.getD none = told := by
    generalize hfound : members.lookup "subscription_type" = found at htold
    cases htold with
    | @told s o hs =>
      refine ⟨some (some s), ?_, rfl⟩
      rw [Pair.After, hfound, hs]
      exact ⟨rfl, _, rfl, rfl⟩
    | null =>
      refine ⟨some none, ?_, rfl⟩
      rw [Pair.After, hfound]
      exact ⟨rfl, _, rfl, rfl⟩
    | missing =>
      refine ⟨none, ?_, rfl⟩
      rw [Pair.After, hfound]
  obtain ⟨second, hsecond, rfl⟩ := hsecond
  exact Pair.read_object (by decide) ho hclosed hfirst hsecond

/-- A frame that brings a notification is read. -/
theorem read_frame {text : String} {frame payload : Outline} {told : Option String} (ht : frame.Spells text)
    (hframe : IsFrame told payload frame) (hpayload : payload.Accepted (Json.depthLimit - 1)) :
    Frame.read text = .ok ⟨"notification", told, payload.value⟩ := by
  obtain ⟨members, ho, hmetadata, hlookup⟩ := hframe
  have hfirst : Pair.After metadata.read "metadata" members none (some ("notification", told)) := by
    obtain ⟨o, hfound, hm⟩ := hmetadata
    have hclosed : o.Closed := ho.closed ht.1 ("metadata", o) (Json.mem_of_lookup hfound)
    rw [Pair.After, hfound]
    exact ⟨rfl, _, read_metadata hm hclosed, rfl⟩
  have hsecond : Pair.After readPayload "payload" members none (some payload.value) := by
    rw [Pair.After, hlookup]
    refine ⟨rfl, _, ?_, rfl⟩
    rw [readPayload, Json.Outline.ofOutline_eq_value _ payload hpayload]
    rfl
  have hnames : envelope.firstName ≠ envelope.secondName := by decide
  have hread : envelope.read frame = .ok (("notification", told), payload.value) :=
    Pair.read_object hnames ho ht.1 hfirst hsecond
  rw [Frame.read, Outline.ofText_of_spells ht]
  dsimp only
  rw [hread]
  rfl

end ChatModeration.Feed
