import ChatModeration.Feed.Event

/-!
# Messages of the feed

What holds of whatever the fields of a record are put together to holds of every record that is decoded
(`Fields.Yields`, `Decoder.Yields`).  So a message that the feed reports is said to be held back exactly if its event
is a hold (`decode_faithful`).
-/

namespace ChatModeration

namespace Json

variable {α β : Type}

/-- Everything that is decoded has a property. -/
def Decoder.Yields (d : Decoder α) (p : α → Prop) : Prop := ∀ v a, d.decode v = .ok a → p a

namespace Fields

/-- Everything that is read from members or from items has a property. -/
structure Yields (fs : Fields α) (p : α → Prop) : Prop where
  members : ∀ members a, fs.ofMembers members = .ok a → p a
  items : ∀ expected position items a rest, fs.ofItems expected position items = .ok (a, rest) → p a

theorem yields_none {p : α → Prop} {a : α} (h : p a) : (Fields.none a).Yields p := by
  refine ⟨?_, ?_⟩
  · intro members b hb
    obtain rfl := Except.ok.inj hb
    exact h
  · intro expected position items b rest hb
    obtain ⟨rfl, -⟩ := Prod.mk.inj (Except.ok.inj hb)
    exact h

theorem Yields.both {f : Fields (α → β)} {a : Fields α} {p : β → Prop} (h : f.Yields fun g => ∀ x, p (g x)) :
    (f.both a).Yields p := by
  refine ⟨?_, ?_⟩
  · intro members b hb
    simp only [Fields.both] at hb
    split at hb
    · rename_i g x hg hx
      obtain rfl := Except.ok.inj hb
      exact h.members members g hg x
    all_goals contradiction
  · intro expected position items b rest hb
    simp only [Fields.both] at hb
    cases hf : f.ofItems expected position items with
    | error e =>
      rw [hf] at hb
      contradiction
    | ok first =>
      obtain ⟨g, items'⟩ := first
      cases ha : a.ofItems expected (position + f.count) items' with
      | error e =>
        simp only [hf, ha, bind, Except.bind] at hb
        contradiction
      | ok second =>
        obtain ⟨x, items''⟩ := second
        simp only [hf, ha, bind, Except.bind, pure, Except.pure] at hb
        obtain ⟨rfl, -⟩ := Prod.mk.inj (Except.ok.inj hb)
        exact h.items expected position items g items' hf x

theorem Yields.seq {f : Fields (α → β)} {a : Fields α} {p : β → Prop} (h : f.Yields fun g => ∀ x, p (g x)) :
    (f <*> a).Yields p := h.both

theorem yields_map {g : α → β} {a : Fields α} {p : β → Prop} (h : ∀ x, p (g x)) : (g <$> a).Yields p :=
  (yields_none h).both

/-- A record has what its fields have. -/
theorem Yields.record {fs : Fields α} {p : α → Prop} (h : fs.Yields p) (name : String) :
    (Fields.record name fs).Yields p := by
  intro v a ha
  cases v with
  | object members =>
    simp only [Fields.record] at ha
    cases hm : fs.ofMembers members with
    | error e =>
      rw [hm] at ha
      contradiction
    | ok b =>
      rw [hm] at ha
      obtain rfl := Except.ok.inj ha
      exact h.members members b hm
  | array items =>
    simp only [Fields.record] at ha
    cases hi : fs.ofItems (expectedLength name fs) 0 items with
    | error e =>
      rw [hi] at ha
      contradiction
    | ok read =>
      obtain ⟨b, rest⟩ := read
      simp only [hi, bind, Except.bind] at ha
      split at ha
      · obtain rfl := Except.ok.inj ha
        exact h.items _ _ items b rest hi
      · contradiction
  | _ => simp [Fields.record, wrongType] at ha

end Fields

end Json

namespace Feed

open Json (Fields)

/-- A message is said to be held back exactly if it is reported as a hold. -/
def FeedEvent.Faithful : FeedEvent → Prop
  | .chatMessage m => m.heldByAutomod = false
  | .automodHold m => m.heldByAutomod = true
  | _ => True

theorem chatMessage_yields : chatMessage.Yields fun m => m.heldByAutomod = false := by
  refine Fields.Yields.record ?_ _
  refine Fields.Yields.seq (Fields.Yields.seq (Fields.Yields.seq (Fields.Yields.seq (Fields.Yields.seq
    (Fields.Yields.seq (Fields.yields_map ?_))))))
  intro id userId login name text badges parent
  rfl

theorem heldMessage_yields : heldMessage.Yields fun m => m.heldByAutomod = true := by
  refine Fields.Yields.record ?_ _
  refine Fields.Yields.seq (Fields.Yields.seq (Fields.Yields.seq (Fields.Yields.seq (Fields.yields_map ?_))))
  intro id userId login name text
  rfl

namespace FeedEvent

/-- An event that is made from a part of a frame. -/
theorem exists_of_part {α : Type} {d : Json.Decoder α} {v : Json} {make : α → FeedEvent} {e : FeedEvent}
    (h : (part d v).map make = .ok e) : ∃ a, d.decode v = .ok a ∧ make a = e := by
  rw [part] at h
  cases hd : d.decode v with
  | error err =>
    rw [hd] at h
    contradiction
  | ok a =>
    rw [hd] at h
    exact ⟨a, rfl, Except.ok.inj h⟩

theorem faithful_ofNotification {kind : String} {v : Json} {e : FeedEvent} (h : ofNotification kind v = .ok e) :
    e.Faithful := by
  unfold ofNotification at h
  split at h
  · contradiction
  · split at h
    · obtain ⟨m, hm, rfl⟩ := exists_of_part h
      exact chatMessage_yields v m hm
    · obtain ⟨m, hm, rfl⟩ := exists_of_part h
      exact heldMessage_yields v m hm
    · obtain rfl := Except.ok.inj h
      trivial
    · obtain rfl := Except.ok.inj h
      trivial
    · obtain ⟨⟨title, category⟩, -, rfl⟩ := exists_of_part h
      trivial
    · obtain ⟨⟨action, moderator⟩, -, rfl⟩ := exists_of_part h
      trivial
    · obtain rfl := Except.ok.inj h
      trivial

theorem faithful_ofFrame {frame : Frame} {e : FeedEvent} (h : ofFrame frame = .ok e) : e.Faithful := by
  unfold ofFrame at h
  split at h
  · obtain ⟨⟨id, url⟩, -, rfl⟩ := exists_of_part h
    trivial
  · obtain rfl := Except.ok.inj h
    trivial
  · obtain ⟨⟨id, url⟩, -, rfl⟩ := exists_of_part h
    trivial
  · obtain ⟨⟨⟨kind, status⟩, event⟩, -, rfl⟩ := exists_of_part h
    trivial
  · cases hp : part notificationPayload frame.payload with
    | error err =>
      rw [hp] at h
      contradiction
    | ok payload =>
      rw [hp] at h
      exact faithful_ofNotification h
  · obtain rfl := Except.ok.inj h
    trivial

/-- Every event that is decoded says the truth about holds. -/
theorem decode_faithful {text : String} {e : FeedEvent} (h : decode text = .ok e) : e.Faithful := by
  unfold decode at h
  cases hf : Frame.read text with
  | error err =>
    rw [hf] at h
    contradiction
  | ok frame =>
    rw [hf] at h
    exact faithful_ofFrame h

end FeedEvent

end Feed

end ChatModeration
