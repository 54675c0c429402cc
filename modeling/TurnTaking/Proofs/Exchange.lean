import TurnTaking.Exchange
import TurnTaking.Proofs.Json.Structure

/-!
# Exchanged values — each has one written form

An avatar, a message, a reference or a presence record is read from its text as it was (`RoundTrips.written`), as
long as its numbers have the bits that they are read with. A text that is read as such a value, however it was
written, is read again as that value once that is written (`RoundTrips.normal`); and arrays, objects with unknown
members and objects without those that may be left out are all read as the value that they are a form of
(`RoundTrips.forms`).
-/

namespace TurnTaking

open Json

/-- The value that a text stands for. -/
def Json.parse {α : Type} (read : Json → Option α) (text : String) : Option α := (read? text).bind read

/-- Values of a type are written and read without loss: those that fit are read as they were; what was read is read
again when it is written; and all forms of a value are read as it. -/
structure RoundTrips {α : Type} (write : α → Json) (read : Json → Option α) (standard : String → Option Json)
    (fits : α → Prop) : Prop where
  written : ∀ a, fits a → parse read (Json.write (write a)) = some a
  normal : ∀ text a, parse read text = some a → parse read (Json.write (write a)) = some a
  forms : ∀ a v, fits a → Form standard (write a) v → read v = some a

/-- So they are if a plain value is written, all its forms are read, and only what fits is read. -/
theorem RoundTrips.of_forms {α : Type} {write : α → Json} {read : Json → Option α}
    {standard : String → Option Json} {fits : α → Prop} (hplain : ∀ a, Plain (write a))
    (hself : ∀ a, Form standard (write a) (write a))
    (hforms : ∀ a v, fits a → Form standard (write a) v → read v = some a)
    (hfits : ∀ v a, read v = some a → fits a) : RoundTrips write read standard fits := by
  have hwritten : ∀ a, fits a → parse read (Json.write (write a)) = some a := by
    intro a ha
    rw [parse, read_write (hplain a), Option.bind_some]
    exact hforms a _ ha (hself a)
  refine ⟨hwritten, fun text a htext => ?_, hforms⟩
  obtain ⟨v, -, hv⟩ := Option.bind_eq_some_iff.mp htext
  exact hwritten a (hfits v a hv)

/-- What was read is handed on. -/
theorem bind_of {α β : Type} {o : Option α} {a : α} (h : o = some a) (f : α → Option β) : (o >>= f) = f a := by
  rw [h]
  rfl

/-! ## Avatars -/

namespace Avatar

/-- Nothing is known of an avatar where only its id and its name are given. -/
def standard : String → Option Json
  | "emoji" | "channel_id" => some .null
  | "aliases" => some (.array [])
  | _ => none

theorem plain_toJson (a : Avatar) : Plain a.toJson := by
  refine .object ?_
  simp only [List.forall_mem_cons]
  exact ⟨.text _, .text _, .ofOption .text, .ofList .text, .ofOption .text, fun _ h => nomatch h⟩

/-- An avatar is read from every form of its fields. -/
theorem ofJson?_form {a : Avatar} {v : Json} (h : Form standard a.toJson v) : ofJson? v = some a := by
  obtain ⟨fs, hfields, hgives⟩ := h.gives
  have hnames : fields? fieldNames v = some fs := hfields
  have htext : ∀ o : Option String, asOption? asText? (ofOption ofText o) = some o := fun o =>
    asOption?_ofOption fun s _ => ⟨nofun, asText?_ofText s⟩
  have hid : fs.required "id" 0 asText? = some a.id := hgives.required rfl rfl (asText?_ofText _)
  have hname : fs.required "name" 1 asText? = some a.name := hgives.required rfl rfl (asText?_ofText _)
  have hemoji : fs.withDefault "emoji" 2 (asOption? asText?) none = some a.emoji :=
    hgives.withDefault rfl rfl (by rfl) (htext _)
  have haliases : fs.withDefault "aliases" 3 (asList? asText?) [] = some a.aliases :=
    hgives.withDefault rfl rfl (by rfl) (asList?_ofList fun s _ => asText?_ofText s)
  have hchannel : fs.withDefault "channel_id" 4 (asOption? asText?) none = some a.channelId :=
    hgives.withDefault rfl rfl (by rfl) (htext _)
  rw [ofJson?, bind_of hnames, bind_of hid, bind_of hname, bind_of hemoji, bind_of haliases, bind_of hchannel]
  rfl

/-- Avatars are exchanged both ways. -/
theorem roundTrips : RoundTrips toJson ofJson? standard fun _ => True := by
  have hnames : fieldNames.Nodup := by decide
  exact .of_forms plain_toJson (fun _ => .self hnames) (fun _ _ _ => ofJson?_form) fun _ _ _ => trivial

/-- An array, and an object in another order, with an unknown member and without what may be left out. -/
example : parse ofJson? "[\"a\",\"Ada\",null,[],null]" = some (.named "a" "Ada") ∧
    parse ofJson? "\x7b\"name\":\"Ada\", \"mood\":[1], \"id\":\"\\u0061\"\x7d" =
      some (.named "a" "Ada") := by
  decide +kernel

end Avatar

/-! ## References and messages -/

namespace MessageRef

/-- The author of a message is not known where it is not given. -/
def standard : String → Option Json
  | "author_id" => some .null
  | _ => none

theorem plain_toJson (r : MessageRef) : Plain r.toJson := by
  refine .object ?_
  simp only [List.forall_mem_cons]
  exact ⟨.text _, .ofOption .text, fun _ h => nomatch h⟩

theorem ofJson?_form {r : MessageRef} {v : Json} (h : Form standard r.toJson v) : ofJson? v = some r := by
  obtain ⟨fs, hfields, hgives⟩ := h.gives
  have hnames : fields? fieldNames v = some fs := hfields
  have hmessage : fs.required "message_id" 0 asText? = some r.messageId :=
    hgives.required rfl rfl (asText?_ofText _)
  have hauthor : fs.withDefault "author_id" 1 (asOption? asText?) none = some r.authorId :=
    hgives.withDefault rfl rfl (by rfl) (asOption?_ofOption fun s _ => ⟨nofun, asText?_ofText s⟩)
  rw [ofJson?, bind_of hnames, bind_of hmessage, bind_of hauthor]
  rfl

theorem form_toJson (r : MessageRef) : Form standard r.toJson r.toJson := by
  have hnames : fieldNames.Nodup := by decide
  exact .self hnames

theorem roundTrips : RoundTrips toJson ofJson? standard fun _ => True :=
  .of_forms plain_toJson form_toJson (fun _ _ _ => ofJson?_form) fun _ _ _ => trivial

end MessageRef

namespace Message

/-- A message is taken for one of a person that answers none, where that is not given. -/
def standard : String → Option Json
  | "author_is_bot" => some (.bool false)
  | "reply_to" => some .null
  | _ => none

/-- The time of the message has 64 bits. -/
def Fits (m : Message) : Prop := Numeral.isInt64 m.createdAt = true

theorem plain_toJson (m : Message) : Plain m.toJson := by
  refine .object ?_
  simp only [List.forall_mem_cons]
  exact ⟨.text _, .text _, .text _, .bool _, .text _, .ofOption MessageRef.plain_toJson, .int _,
    fun _ h => nomatch h⟩

/-- A message is read from every form of its fields. -/
theorem ofJson?_form {m : Message} (hm : m.Fits) {v : Json} (h : Form standard m.toJson v) :
    ofJson? v = some m := by
  obtain ⟨fs, hfields, hgives⟩ := h.gives
  have hnames : fields? fieldNames v = some fs := hfields
  have hid : fs.required "id" 0 asText? = some m.id := hgives.required rfl rfl (asText?_ofText _)
  have hchannel : fs.required "channel_id" 1 asText? = some m.channelId :=
    hgives.required rfl rfl (asText?_ofText _)
  have hauthor : fs.required "author_id" 2 asText? = some m.authorId :=
    hgives.required rfl rfl (asText?_ofText _)
  have hbot : fs.withDefault "author_is_bot" 3 asBool? false = some m.authorIsBot :=
    hgives.withDefault rfl rfl (by rfl) (by rfl)
  have hcontent : fs.required "content" 4 asText? = some m.content :=
    hgives.required rfl rfl (asText?_ofText _)
  have hreply : fs.withDefault "reply_to" 5 (asOption? MessageRef.ofJson?) none = some m.replyTo :=
    hgives.withDefault rfl rfl (by rfl)
      (asOption?_ofOption fun r _ => ⟨nofun, MessageRef.ofJson?_form r.form_toJson⟩)
  have hcreated : fs.required "created_at" 6 asInt64? = some m.createdAt :=
    hgives.required rfl rfl (asInt64?_ofInt hm)
  rw [ofJson?, bind_of hnames, bind_of hid, bind_of hchannel, bind_of hauthor, bind_of hbot, bind_of hcontent,
    bind_of hreply, bind_of hcreated]
  rfl

/-- What is read as a message fits. -/
theorem fits_of_ofJson? {v : Json} {m : Message} (h : ofJson? v = some m) : m.Fits := by
  iterate 7 obtain ⟨_, -, h⟩ := Option.bind_eq_some_iff.mp h
  obtain ⟨created, hcreated, h⟩ := Option.bind_eq_some_iff.mp h
  obtain rfl := Option.some.inj h
  obtain ⟨_, hread⟩ := Fields.of_required hcreated
  exact isInt64_of_asInt64? hread

theorem roundTrips : RoundTrips toJson ofJson? standard Fits := by
  have hnames : fieldNames.Nodup := by decide
  exact .of_forms plain_toJson (fun _ => .self hnames) (fun _ _ hfits => ofJson?_form hfits)
    fun _ _ => fits_of_ofJson?

end Message

/-! ## Presence records -/

namespace Presence.Record

/-- What may be missing of a record is missing where it is not given. -/
def standard : String → Option Json
  | "last_turn_at" | "last_mentioned_at" | "last_summoned_at" | "conversation_role" | "cooldown_until" =>
    some .null
  | _ => none

/-- The numbers of the record have no more bits than they are read with. -/
structure Fits (r : Record) : Prop where
  lastTurnAt : ∀ t ∈ r.lastTurnAt, Numeral.isInt64 t = true
  lastMentionedAt : ∀ t ∈ r.lastMentionedAt, Numeral.isInt64 t = true
  lastSummonedAt : ∀ t ∈ r.lastSummonedAt, Numeral.isInt64 t = true
  summonTurns : r.summonTurns < 0x100000000
  priorityPins : r.priorityPins < 0x100000000
  cooldownUntil : ∀ t ∈ r.cooldownUntil, Numeral.isInt64 t = true
  turnsTaken : r.turnsTaken < 0x10000000000000000
  updatedAt : Numeral.isInt64 r.updatedAt = true

theorem plain_toJson (r : Record) : Plain r.toJson := by
  refine .object ?_
  simp only [List.forall_mem_cons]
  exact ⟨.text _, .text _, .text _, .ofOption .int, .ofOption .int, .ofOption .int, .int _, .int _, .ofTagSet _,
    .ofOption fun _ => .text _, .ofOption .int, .int _, .int _, fun _ h => nomatch h⟩

theorem ofJson?_form {r : Record} (hr : r.Fits) {v : Json} (h : Form standard r.toJson v) :
    ofJson? v = some r := by
  obtain ⟨fs, hfields, hgives⟩ := h.gives
  have hnames : fields? fieldNames v = some fs := hfields
  have htime : ∀ o : Option Int, (∀ t ∈ o, Numeral.isInt64 t = true) →
      asOption? asInt64? (ofOption ofInt o) = some o := fun o ho =>
    asOption?_ofOption fun t ht => ⟨nofun, asInt64?_ofInt (ho t ht)⟩
  -- field by field, in the order in which they are read
  have hchannel : fs.required "channel_id" 0 asText? = some r.channelId :=
    hgives.required rfl rfl (asText?_ofText _)
  have havatar : fs.required "avatar_id" 1 asText? = some r.avatarId :=
    hgives.required rfl rfl (asText?_ofText _)
  have hstate : fs.required "state" 2 (asName? State.ofName?) = some r.state :=
    hgives.required rfl rfl (show asName? State.ofName? (ofText r.state.name) = _ from State.ofName?_name _)
  have hturn : fs.optional "last_turn_at" 3 asInt64? = some r.lastTurnAt :=
    hgives.optional rfl rfl (htime _ hr.lastTurnAt)
  have hmentioned : fs.optional "last_mentioned_at" 4 asInt64? = some r.lastMentionedAt :=
    hgives.optional rfl rfl (htime _ hr.lastMentionedAt)
  have hsummoned : fs.optional "last_summoned_at" 5 asInt64? = some r.lastSummonedAt :=
    hgives.optional rfl rfl (htime _ hr.lastSummonedAt)
  have hturns : fs.required "new_summon_turns_remaining" 6 asNat32? = some r.summonTurns :=
    hgives.required rfl rfl (asNat32?_ofInt hr.summonTurns)
  have hpins : fs.required "priority_pins" 7 asNat32? = some r.priorityPins :=
    hgives.required rfl rfl (asNat32?_ofInt hr.priorityPins)
  have htags : fs.required "topic_tags" 8 asTagSet? = some r.topicTags :=
    hgives.required rfl rfl (asTagSet?_ofTagSet _)
  have hrole : fs.optional "conversation_role" 9 (asName? Role.ofName?) = some r.role :=
    hgives.optional rfl rfl (asOption?_ofOption fun role _ => ⟨nofun, Role.ofName?_name role⟩)
  have hcool : fs.optional "cooldown_until" 10 asInt64? = some r.cooldownUntil :=
    hgives.optional rfl rfl (htime _ hr.cooldownUntil)
  have htaken : fs.required "turns_taken" 11 asNat64? = some r.turnsTaken :=
    hgives.required rfl rfl (asNat64?_ofInt hr.turnsTaken)
  have hupdated : fs.required "updated_at" 12 asInt64? = some r.updatedAt :=
    hgives.required rfl rfl (asInt64?_ofInt hr.updatedAt)
  rw [ofJson?, bind_of hnames, bind_of hchannel, bind_of havatar, bind_of hstate, bind_of hturn,
    bind_of hmentioned, bind_of hsummoned, bind_of hturns, bind_of hpins, bind_of htags, bind_of hrole,
    bind_of hcool, bind_of htaken, bind_of hupdated]
  rfl

/-- What is read as a record fits. -/
theorem fits_of_ofJson? {v : Json} {r : Record} (h : ofJson? v = some r) : r.Fits := by
  have htime : ∀ {fs : Fields} {name : String} {i : Nat} {o : Option Int},
      fs.optional name i asInt64? = some o → ∀ t ∈ o, Numeral.isInt64 t = true := by
    intro fs name i o ho t ht
    obtain ⟨_, hread⟩ := Fields.of_optional ho t ht
    exact isInt64_of_asInt64? hread
  -- the fields are read one after another
  iterate 4 obtain ⟨_, -, h⟩ := Option.bind_eq_some_iff.mp h
  obtain ⟨_, hturn, h⟩ := Option.bind_eq_some_iff.mp h
  obtain ⟨_, hmentioned, h⟩ := Option.bind_eq_some_iff.mp h
  obtain ⟨_, hsummoned, h⟩ := Option.bind_eq_some_iff.mp h
  obtain ⟨_, hturns, h⟩ := Option.bind_eq_some_iff.mp h
  obtain ⟨_, hpins, h⟩ := Option.bind_eq_some_iff.mp h
  iterate 2 obtain ⟨_, -, h⟩ := Option.bind_eq_some_iff.mp h
  obtain ⟨_, hcool, h⟩ := Option.bind_eq_some_iff.mp h
  obtain ⟨_, htaken, h⟩ := Option.bind_eq_some_iff.mp h
  obtain ⟨_, hupdated, h⟩ := Option.bind_eq_some_iff.mp h
  obtain rfl := Option.some.inj h
  obtain ⟨_, hturns⟩ := Fields.of_required hturns
  obtain ⟨_, hpins⟩ := Fields.of_required hpins
  obtain ⟨_, htaken⟩ := Fields.of_required htaken
  obtain ⟨_, hupdated⟩ := Fields.of_required hupdated
  exact ⟨htime hturn, htime hmentioned, htime hsummoned, lt_of_asNat32? hturns, lt_of_asNat32? hpins,
    htime hcool, lt_of_asNat64? htaken, isInt64_of_asInt64? hupdated⟩

/-- Records are exchanged both ways. -/
theorem roundTrips : RoundTrips toJson ofJson? standard Fits := by
  have hnames : fieldNames.Nodup := by decide
  exact .of_forms plain_toJson (fun _ => .self hnames) (fun _ _ hfits => ofJson?_form hfits)
    fun _ _ => fits_of_ofJson?

end Presence.Record

/-- All exchanged values are written and read without loss. -/
theorem exchange_round_trips :
    RoundTrips Avatar.toJson Avatar.ofJson? Avatar.standard (fun _ => True) ∧
      RoundTrips MessageRef.toJson MessageRef.ofJson? MessageRef.standard (fun _ => True) ∧
      RoundTrips Message.toJson Message.ofJson? Message.standard Message.Fits ∧
      RoundTrips Presence.Record.toJson Presence.Record.ofJson? Presence.Record.standard
        Presence.Record.Fits :=
  ⟨Avatar.roundTrips, MessageRef.roundTrips, Message.roundTrips, Presence.Record.roundTrips⟩

/-- The largest and the smallest numbers fit, and tags may be any texts. -/
theorem exchange_round_trips_extreme :
    let r : Presence.Record :=
      { Presence.Record.fresh "lobby" "ada" (-0x8000000000000000) with
        state := .absent, lastTurnAt := some 0x7fffffffffffffff, summonTurns := 0xffffffff,
        topicTags := .ofList ["b\"\\\n", "", "\x00"], role := some .activeSpeaker,
        turnsTaken := 0xffffffffffffffff }
    r.Fits ∧ parse Presence.Record.ofJson? (Json.write r.toJson) = some r := by
  intro r
  have hfits : r.Fits := by constructor <;> decide
  obtain ⟨-, -, -, hrecords⟩ := exchange_round_trips
  exact ⟨hfits, hrecords.written r hfits⟩

end TurnTaking
