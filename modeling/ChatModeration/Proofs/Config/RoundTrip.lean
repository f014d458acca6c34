import ChatModeration.Config.Schema
import ChatModeration.Proofs.Json.Records

/-!
# Configurations read back

Every part of a configuration is read back as it was written, whatever its strings and numbers are, and so is the
configuration (`Config.inverts_toJson`).
-/

namespace ChatModeration

namespace Json.Decoder

theorem inverts_natural (type : String) : (natural type).Inverts Json.ofNat := by
  intro n
  simp [natural, Json.ofNat]

theorem inverts_texts : texts.Inverts Json.ofTexts := inverts_list inverts_text

end Json.Decoder

open Json (Decoder Holds)
open Json.Fields (Reads reads_field reads_missing decode_record decode_extendedRecord)

/-! ### Parts of a configuration -/

theorem PunishmentKind.inverts_name : (Decoder.choice named).Inverts fun k => .string k.name := by
  intro k
  cases k <;> rfl

theorem Mode.inverts_name : (Decoder.choice named).Inverts fun m => .string m.name := by
  intro m
  cases m <;> rfl

theorem Punishment.inverts_toJson : Punishment.decoder.Inverts toJson := by
  intro p
  refine decode_record _ (by simp) fun sorted hs => .seq (.map _ ?_) ?_
  · exact reads_field hs PunishmentKind.inverts_name (by simp)
  · exact reads_field hs (Decoder.inverts_natural _) (by simp)

theorem Punishment.inverts_tiersToJson : Punishment.tiers.Inverts tiersToJson :=
  Decoder.inverts_list Punishment.inverts_toJson

/-- The options of a rule are read back from among other members. -/
theorem RuleOptions.reads_fields {sorted written : List (String × Json)} (hs : Holds sorted written) {o : RuleOptions}
    (hm : o.members ⊆ written) : fields.Reads sorted o := by
  have hflag : ∀ name b, (name, Json.bool b) ∈ o.members →
      (Json.Fields.defaulted name .flag false).Reads sorted b :=
    fun name b hb => reads_field hs Decoder.inverts_flag (hm hb)
  refine .seq (.seq (.seq (.seq (.seq (.seq (.map _ ?_) ?_) ?_) ?_) ?_) ?_) ?_
  all_goals exact hflag _ _ (by simp [members])

/-- A pattern is read back from among other members, also if there is none. -/
theorem reads_pattern {sorted written : List (String × Json)} (hs : Holds sorted written) {pattern : Option String}
    (hm : Json.patternMember pattern ⊆ written) (hnone : pattern = none → "pattern" ∉ written.map Prod.fst) :
    (Json.Fields.optional "pattern" .text).Reads sorted pattern := by
  cases pattern with
  | none => exact reads_missing hs (hnone rfl)
  | some p =>
    have htext : (Decoder.optional .text).Inverts fun o => (o.map Json.string).getD .null :=
      Decoder.inverts_optional Decoder.inverts_text nofun
    exact reads_field hs htext (a := some p) (hm (by simp [Json.patternMember]))

theorem RuleEntry.inverts_toJson : decoder.Inverts toJson := by
  intro r
  have hread : decoder.decode r.toJson =
      .ok (decoder.make r.name r.words r.pattern r.punishments r.resetSeconds r.options) := by
    rw [decoder, toJson]
    refine decode_extendedRecord _ ?_ fun sorted hs =>
      ⟨.seq (.seq (.seq (.seq (.map _ ?_) ?_) ?_) ?_) ?_,
        RuleOptions.reads_fields hs (List.subset_append_right _ _)⟩
    · cases r.pattern <;> simp [Json.patternMember, RuleOptions.members]
    · exact reads_field hs Decoder.inverts_text (by simp)
    · exact reads_field hs Decoder.inverts_texts (by simp)
    · refine reads_pattern hs (fun m hm => by simp [hm]) fun hp => ?_
      simp [hp, Json.patternMember, RuleOptions.members]
    · exact reads_field hs Punishment.inverts_tiersToJson (by simp)
    · exact reads_field hs (Decoder.inverts_natural _) (by simp)
  exact hread

theorem GroupEntry.inverts_toJson : decoder.Inverts toJson := by
  intro g
  have hread : decoder.decode g.toJson =
      .ok (decoder.make g.name g.words g.patterns g.punishments g.resetSeconds g.options) := by
    rw [decoder, toJson]
    refine decode_extendedRecord _ ?_ fun sorted hs =>
      ⟨.seq (.seq (.seq (.seq (.map _ ?_) ?_) ?_) ?_) ?_,
        RuleOptions.reads_fields hs (List.subset_append_right _ _)⟩
    · simp [RuleOptions.members]
    · exact reads_field hs Decoder.inverts_text (by simp)
    · exact reads_field hs Decoder.inverts_texts (by simp)
    · exact reads_field hs Decoder.inverts_texts (by simp)
    · exact reads_field hs Punishment.inverts_tiersToJson (by simp)
    · exact reads_field hs (Decoder.inverts_natural _) (by simp)
  exact hread

theorem ExceptionEntry.inverts_toJson : decoder.Inverts toJson := by
  intro e
  have hread : decoder.decode e.toJson =
      .ok (decoder.make e.name e.words e.pattern e.messageLimit e.punishments e.resetSeconds e.options) := by
    rw [decoder, toJson]
    refine decode_extendedRecord _ ?_ fun sorted hs =>
      ⟨.seq (.seq (.seq (.seq (.seq (.map _ ?_) ?_) ?_) ?_) ?_) ?_,
        RuleOptions.reads_fields hs (List.subset_append_right _ _)⟩
    · cases e.pattern <;> simp [Json.patternMember, RuleOptions.members]
    · exact reads_field hs Decoder.inverts_text (by simp)
    · exact reads_field hs Decoder.inverts_texts (by simp)
    · refine reads_pattern hs (fun m hm => by simp [hm]) fun hp => ?_
      simp [hp, Json.patternMember, RuleOptions.members]
    · exact reads_field hs (Decoder.inverts_natural _) (by simp)
    · exact reads_field hs Punishment.inverts_tiersToJson (by simp)
    · exact reads_field hs (Decoder.inverts_natural _) (by simp)
  exact hread

theorem inverts_exceptions :
    (Decoder.list ExceptionEntry.decoder).Inverts fun es => .array (es.map ExceptionEntry.toJson) :=
  Decoder.inverts_list ExceptionEntry.inverts_toJson

theorem EmotePolicy.inverts_toJson : decoder.Inverts toJson := by
  intro p
  refine decode_record _ (by simp) fun sorted hs => .seq (.seq (.seq (.seq (.seq (.map _ ?_) ?_) ?_) ?_) ?_) ?_
  · exact reads_field hs Decoder.inverts_flag (by simp)
  · exact reads_field hs (Decoder.inverts_natural _) (by simp)
  · exact reads_field hs (Decoder.inverts_natural _) (by simp)
  · exact reads_field hs Punishment.inverts_tiersToJson (by simp)
  · exact reads_field hs (Decoder.inverts_natural _) (by simp)
  · exact reads_field hs inverts_exceptions (by simp)

theorem SpamProfile.inverts_toJson : decoder.Inverts toJson := by
  intro p
  refine decode_record _ (by simp) fun sorted hs =>
    .seq (.seq (.seq (.seq (.seq (.seq (.seq (.seq (.map _ ?_) ?_) ?_) ?_) ?_) ?_) ?_) ?_) ?_
  · exact reads_field hs Decoder.inverts_flag (by simp)
  · exact reads_field hs Decoder.inverts_real (by simp)
  · exact reads_field hs (Decoder.inverts_natural _) (by simp)
  · exact reads_field hs (Decoder.inverts_natural _) (by simp)
  · exact reads_field hs (Decoder.inverts_natural _) (by simp)
  · exact reads_field hs Punishment.inverts_tiersToJson (by simp)
  · exact reads_field hs (Decoder.inverts_natural _) (by simp)
  · exact reads_field hs EmotePolicy.inverts_toJson (by simp)
  · exact reads_field hs inverts_exceptions (by simp)

theorem AdvertisingPolicy.inverts_members : decoder.Inverts fun p =>
    .ofMembers [("enabled", .bool p.enabled), ("promo_phrases", .ofTexts p.promoPhrases)] := by
  intro p
  refine decode_record _ (by simp) fun sorted hs => .seq (.map _ ?_) ?_
  · exact reads_field hs Decoder.inverts_flag (by simp)
  · exact reads_field hs Decoder.inverts_texts (by simp)

theorem WordLengthPolicy.inverts_members : decoder.Inverts fun p =>
    .ofMembers [("enabled", .bool p.enabled), ("max_length", .ofNat p.maxLength),
      ("punishment", p.punishment.toJson)] := by
  intro p
  refine decode_record _ (by simp) fun sorted hs => .seq (.seq (.map _ ?_) ?_) ?_
  · exact reads_field hs Decoder.inverts_flag (by simp)
  · exact reads_field hs (Decoder.inverts_natural _) (by simp)
  · exact reads_field hs Punishment.inverts_toJson (by simp)

theorem SpamPolicy.inverts_members : decoder.Inverts fun p =>
    .ofMembers [("default", p.standard.toJson), ("vip", p.vip.toJson)] := by
  intro p
  refine decode_record _ (by simp) fun sorted hs => .seq (.map _ ?_) ?_
  · exact reads_field hs SpamProfile.inverts_toJson (by simp)
  · exact reads_field hs SpamProfile.inverts_toJson (by simp)

theorem StoreSettings.inverts_members : decoder.Inverts fun s =>
    .ofMembers [("shards", .ofNat s.shards), ("reclaim_interval_ms", .ofNat s.reclaimInterval)] := by
  intro s
  refine decode_record _ (by simp) fun sorted hs => .seq (.map _ ?_) ?_
  · exact reads_field hs (Decoder.inverts_natural _) (by simp)
  · exact reads_field hs (Decoder.inverts_natural _) (by simp)

theorem PipelineSettings.inverts_members : decoder.Inverts fun s =>
    .ofMembers [("queue_capacity", .ofNat s.queueCapacity), ("workers", .ofNat s.workers),
      ("reconnect_backoff_ms", .ofNat s.reconnectBackoff),
      ("first_message_timeout_ms", .ofNat s.firstMessageTimeout)] := by
  intro s
  refine decode_record _ (by simp) fun sorted hs => .seq (.seq (.seq (.map _ ?_) ?_) ?_) ?_
  · exact reads_field hs (Decoder.inverts_natural _) (by simp)
  · exact reads_field hs (Decoder.inverts_natural _) (by simp)
  · exact reads_field hs (Decoder.inverts_natural _) (by simp)
  · exact reads_field hs (Decoder.inverts_natural _) (by simp)

/-! ### Configurations -/

namespace Config

/-- Every configuration is read back as it was written. -/
theorem inverts_toJson : decoder.Inverts toJson := by
  intro c
  rw [decoder, toJson]
  refine decode_record _ (by simp) fun sorted hs =>
    .seq (.seq (.seq (.seq (.seq (.seq (.seq (.seq (.seq (.seq (.seq (.map _ ?_) ?_) ?_) ?_) ?_) ?_) ?_) ?_) ?_) ?_)
      ?_) ?_
  · exact reads_field hs Decoder.inverts_flag (by simp)
  · exact reads_field hs Mode.inverts_name (by simp)
  · exact reads_field hs Decoder.inverts_texts (by simp)
  · exact reads_field hs Decoder.inverts_texts (by simp)
  · exact reads_field hs AdvertisingPolicy.inverts_members (by simp)
  · exact reads_field hs WordLengthPolicy.inverts_members (by simp)
  · exact reads_field hs (Decoder.inverts_list RuleEntry.inverts_toJson) (by simp)
  · exact reads_field hs (Decoder.inverts_list GroupEntry.inverts_toJson) (by simp)
  · exact reads_field hs SpamPolicy.inverts_members (by simp)
  · exact reads_field hs Decoder.inverts_texts (by simp)
  · exact reads_field hs StoreSettings.inverts_members (by simp)
  · exact reads_field hs PipelineSettings.inverts_members (by simp)

end Config

end ChatModeration
