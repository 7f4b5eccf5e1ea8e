import EventCatalog.Cursor
import EventCatalog.Proofs.Except
import EventCatalog.Proofs.Instant.RoundTrip
import EventCatalog.Proofs.Json.Decoding
import EventCatalog.Proofs.Json.Record
import EventCatalog.Proofs.Text.Base64
import EventCatalog.Proofs.Uuid

/-!
# Tokens read back

The token of a cursor reads back as that cursor, but for a leap second within a minute, which the
token writes like the second after it.  The record inside a token holds two plain texts, an
identifier and an instant, of bounded length; so the token stays far below the size from which on
tokens are refused.  It is never empty, as an empty text stands for no token.
-/

namespace EventCatalog

open Text (IsAscii asciiByte)
open Json (IsPlain IsPlainChar)

namespace Instant

theorem isPlainChar_digitChar : ∀ d < 16, IsPlainChar (Text.digitChar d) := by
  decide

theorem isPlain_digits {base : Nat} (hbase : 0 < base) (hbase' : base ≤ 16) (count n : Nat) :
    IsPlain (Text.digits base count n) := by
  intro c hc
  obtain ⟨d, hd, rfl⟩ := Text.mem_digits hbase hc
  exact isPlainChar_digitChar d (by omega)

theorem isPlain_yearChars (year : Int) : IsPlain (yearChars year) := by
  unfold yearChars Text.padded
  split
  · exact isPlain_digits (by decide) (by decide) _ _
  · rw [Json.isPlain_cons]
    refine ⟨?_, isPlain_digits (by decide) (by decide) _ _⟩
    split <;> decide

theorem isPlain_fractionChars (nanos : Nat) : IsPlain (fractionChars nanos) := by
  have hdigits := isPlain_digits (show 0 < 10 by decide) (by decide)
  have hpoint : IsPlainChar '.' := by decide
  unfold fractionChars
  split
  · exact Json.isPlain_nil
  · split
    · exact (Json.isPlain_cons _ _).2 ⟨hpoint, hdigits _ _⟩
    · split
      · exact (Json.isPlain_cons _ _).2 ⟨hpoint, hdigits _ _⟩
      · exact (Json.isPlain_cons _ _).2 ⟨hpoint, hdigits _ _⟩

/-- An instant is printed in plain characters. -/
theorem isPlain_toChars (t : Instant) : IsPlain t.toChars := by
  have hdigits := isPlain_digits (show 0 < 10 by decide) (by decide)
  have hhyphen : IsPlainChar '-' := by decide
  have hcolon : IsPlainChar ':' := by decide
  have hdivider : IsPlainChar 'T' := by decide
  have hzone : IsPlainChar 'Z' := by decide
  simp only [toChars, dateChars, clockChars, Json.isPlain_append, Json.isPlain_cons, hdigits,
    isPlain_yearChars, isPlain_fractionChars, hhyphen, hcolon, hdivider, hzone, Json.isPlain_nil,
    and_self]

/-- The years of instants have at most six digits. -/
theorem natAbs_year_lt (t : Instant) :
    (Date.ofDayNumber (t.seconds / 86400)).year.natAbs < 1000000 := by
  have hlower := t.lower
  have hupper := t.upper
  unfold Date.ofDayNumber Date.daysPerEra Date.epochShift
  dsimp only
  split <;> omega

theorem length_padded_le {n : Nat} (h : n < 1000000) : (Text.padded 4 n).length ≤ 6 := by
  have hneeded : (Nat.toDigits 10 n).length ≤ 6 :=
    (Nat.length_toDigits_le_iff (by decide) (by decide)).2 (by simpa using h)
  rw [Text.padded, Text.length_digits]
  omega

theorem length_yearChars_le {year : Int} (h : year.natAbs < 1000000) :
    (yearChars year).length ≤ 7 := by
  unfold yearChars
  split
  · have hle := length_padded_le (n := year.toNat) (by omega)
    omega
  · have hle := length_padded_le h
    rw [List.length_cons]
    omega

theorem length_fractionChars_le (nanos : Nat) : (fractionChars nanos).length ≤ 10 := by
  unfold fractionChars
  split
  · simp
  · split
    · simp
    · split <;> simp

theorem length_toChars_le (t : Instant) : t.toChars.length ≤ 33 := by
  have hyear := length_yearChars_le t.natAbs_year_lt
  have hfraction := length_fractionChars_le (t.nanos % 1000000000)
  simp only [toChars, dateChars, clockChars, List.length_append, List.length_cons,
    Text.length_digits, List.length_nil]
  omega

end Instant

theorem Uuid.isPlain_toChars (id : Uuid) : IsPlain id.toChars := by
  intro c hc
  rcases Uuid.mem_toChars hc with rfl | ⟨d, hd, rfl⟩
  · decide
  · exact Instant.isPlainChar_digitChar d hd

namespace Cursor

open Json (PlainMember ofPlainMembers plainParts quotedText? quotedText?_plain)

/-- The characters of the identifier in a token; none when there is no boundary. -/
def idChars (c : Cursor) : List Char := (c.lastId.map Uuid.toChars).getD []

/-- The name of the identifier in the record of a token. -/
def idName : List Char := ['l', 'a', 's', 't', '_', 'i', 'd']

/-- The name of the timestamp in the record of a token. -/
def timestampName : List Char := ['t', 'i', 'm', 'e', 's', 't', 'a', 'm', 'p']

theorem ofList_idName : String.ofList idName = "last_id" := by
  decide

theorem ofList_timestampName : String.ofList timestampName = "timestamp" := by
  decide

theorem isPlain_idName : IsPlain idName := by
  decide

theorem isPlain_timestampName : IsPlain timestampName := by
  decide

/-- The members of the record in a token. -/
def members (c : Cursor) : PlainMember × PlainMember :=
  ((idName, c.idChars), (timestampName, c.timestamp.toChars))

theorem isPlain_idChars (c : Cursor) : IsPlain c.idChars := by
  unfold idChars
  cases c.lastId with
  | none => exact Json.isPlain_nil
  | some id => exact id.isPlain_toChars

theorem length_idChars_le (c : Cursor) : c.idChars.length ≤ 36 := by
  unfold idChars
  cases c.lastId with
  | none => simp
  | some id => simp

theorem isPlain_members (c : Cursor) :
    ∀ m ∈ [c.members.1, c.members.2], PlainMember.IsPlain m := by
  rintro m (_ | ⟨_, _ | ⟨_, hm⟩⟩)
  · exact ⟨isPlain_idName, c.isPlain_idChars⟩
  · exact ⟨isPlain_timestampName, c.timestamp.isPlain_toChars⟩
  · cases hm

theorem payloadJson_eq (c : Cursor) :
    c.payloadJson = ofPlainMembers [c.members.1, c.members.2] := by
  have hid : (c.lastId.map toString).getD "" = String.ofList c.idChars := by
    unfold idChars
    cases c.lastId <;> rfl
  have htimestamp : toString c.timestamp = String.ofList c.timestamp.toChars := rfl
  simp only [payloadJson, ofPlainMembers, members, List.map_cons, List.map_nil, ofList_idName,
    ofList_timestampName, hid, htimestamp]

/-- The bytes inside a token. -/
theorem toBytes_payload (c : Cursor) :
    Text.toBytes (Json.print c.payloadJson) =
      0x7B :: Json.memberBytes c.members.1 (Json.laterBytes [c.members.2] []) := by
  rw [payloadJson_eq, Json.toBytes_print c.isPlain_members]

theorem utf8ByteSize_encode_le (c : Cursor) : c.encode.utf8ByteSize ≤ maxTokenSize := by
  have hid := c.length_idChars_le
  have htimestamp := c.timestamp.length_toChars_le
  have hlength : (Text.toBytes (Json.print c.payloadJson)).length ≤ 120 := by
    rw [toBytes_payload]
    simp only [Json.memberBytes, Json.laterBytes, members, idName, timestampName, List.length_cons,
      List.length_append, List.length_map, List.length_nil]
    omega
  rw [encode, Text.utf8ByteSize_ofList (Text.Base64.isAscii_encode _), Text.Base64.length_encode,
    maxTokenSize]
  omega

/-- The record of a token is read field by field. -/
theorem decodeBytes_payload (c : Cursor) :
    Json.decodeBytes (Json.decodeRecord payloadFields ⟨"", Instant.epoch⟩)
      (Text.toBytes (Json.print c.payloadJson)) =
        .ok ⟨String.ofList c.idChars, c.timestamp.asPrinted⟩ := by
  have hidName : quotedText? (plainParts c.members.1.1) = some "last_id" := by
    rw [← ofList_idName]
    exact quotedText?_plain isPlain_idName
  have htimestampName : quotedText? (plainParts c.members.2.1) = some "timestamp" := by
    rw [← ofList_timestampName]
    exact quotedText?_plain isPlain_timestampName
  have hid : quotedText? (plainParts c.members.1.2) = some (String.ofList c.idChars) :=
    quotedText?_plain c.isPlain_idChars
  have htimestamp : quotedText? (plainParts c.members.2.2) = some (toString c.timestamp) :=
    quotedText?_plain c.timestamp.isPlain_toChars
  rw [toBytes_payload, Json.decodeBytes, Json.readBytes_record c.isPlain_members]
  simp [Json.decodeRecord, Json.memberReading, Json.decodeMembers, payloadFields, Json.Field.of,
    Json.decodeString, Json.decodeText, hidName, htimestampName, hid, htimestamp,
    Instant.ofString?_toString, Except.map, bind, Except.bind]

/-- The cursor that the token of a cursor stands for. -/
def asPrinted (c : Cursor) : Cursor := ⟨c.lastId, c.timestamp.asPrinted⟩

@[simp]
theorem lastId_asPrinted (c : Cursor) : c.asPrinted.lastId = c.lastId := rfl

theorem asPrinted_eq_self_iff {c : Cursor} :
    c.asPrinted = c ↔ c.timestamp.LeapsAtMinuteEnd := by
  rw [← Instant.asPrinted_eq_self_iff]
  exact ⟨congrArg timestamp, congrArg (Cursor.mk c.lastId)⟩

theorem decode_encode (c : Cursor) : decode c.encode = .ok c.asPrinted := by
  have hsize : ¬maxTokenSize < c.encode.utf8ByteSize := Nat.not_lt.2 c.utf8ByteSize_encode_le
  have hbytes : Text.Base64.decode? c.encode.toList =
      some (Text.toBytes (Json.print c.payloadJson)) := by
    rw [encode, String.toList_ofList, Text.Base64.decode?_encode]
  have hpayload : ofPayload ⟨String.ofList c.idChars, c.timestamp.asPrinted⟩ =
      .ok c.asPrinted := by
    obtain ⟨lastId, timestamp⟩ := c
    cases lastId with
    | none => rfl
    | some id =>
      have hread : Uuid.ofString? (String.ofList id.toChars) = some id := id.ofString?_toString
      have hne : String.ofList id.toChars ≠ "" := by
        intro hempty
        have hlength := congrArg (fun s ↦ s.toList.length) hempty
        simp at hlength
      simp [ofPayload, asPrinted, idChars, hread, hne]
  rw [decode, if_neg hsize, hbytes]
  simp only [decodeBytes_payload, hpayload]

/-- Decoding undoes encoding exactly where a leap second ends its minute. -/
theorem decode_encode_eq_ok_iff {c : Cursor} :
    decode c.encode = .ok c ↔ c.timestamp.LeapsAtMinuteEnd := by
  rw [decode_encode, Except.ok.injEq, asPrinted_eq_self_iff]

/-- Whether bytes are the record of a cursor. -/
def IsRecord (bytes : List UInt8) (c : Cursor) : Prop :=
  ∃ payload, Json.decodeBytes (Json.decodeRecord payloadFields ⟨"", Instant.epoch⟩) bytes =
    .ok payload ∧ ofPayload payload = .ok c

theorem decode_eq_ok_iff {token : String} {c : Cursor} :
    decode token = .ok c ↔ token.utf8ByteSize ≤ maxTokenSize ∧
      ∃ bytes, Text.Base64.decode? token.toList = some bytes ∧ IsRecord bytes c := by
  unfold decode
  by_cases hsize : maxTokenSize < token.utf8ByteSize
  · rw [if_pos hsize]
    simp only [reduceCtorEq, false_iff, not_and]
    intro hle
    omega
  · rw [if_neg hsize]
    cases hread : Text.Base64.decode? token.toList with
    | none => simp
    | some bytes =>
      cases hrecord : Json.decodeBytes (Json.decodeRecord payloadFields ⟨"", Instant.epoch⟩)
          bytes with
      | error fault => simp [IsRecord, hrecord]
      | ok payload => simp [IsRecord, hrecord, Nat.not_lt.1 hsize]

/-- What a record holds was read from a text, or it is the instant of a record without one. -/
theorem IsRecord.leapsAtMinuteEnd {bytes : List UInt8} {c : Cursor} (h : IsRecord bytes c) :
    c.timestamp.LeapsAtMinuteEnd := by
  obtain ⟨payload, hread, hpayload⟩ := h
  have hkeeps : ∀ f ∈ payloadFields, f.Keeps fun p ↦ p.timestamp.LeapsAtMinuteEnd := by
    simp only [payloadFields, List.forall_mem_cons]
    refine ⟨Json.Field.keeps_of fun p r id hp _ ↦ hp, Json.Field.keeps_of ?_,
      List.forall_mem_nil _⟩
    intro p r time hp htime
    obtain ⟨text, -, htext⟩ := bind_eq_ok_iff.1 htime
    cases hchars : Instant.ofString? text with
    | none =>
      rw [hchars] at htext
      cases htext
    | some t =>
      rw [hchars] at htext
      cases htext
      exact Instant.leapsAtMinuteEnd_of_ofChars? hchars
  have hrecord : payload.timestamp.LeapsAtMinuteEnd := by
    obtain ⟨p, hp, hend⟩ := bind_eq_ok_iff.1 hread
    have hsame : p = payload := by
      split at hend
      · exact Except.ok.inj hend
      · cases hend
    rw [← hsame]
    refine Json.of_decodeRecord hkeeps ?_ hp
    decide
  rw [ofPayload] at hpayload
  split at hpayload
  · cases hpayload
    exact hrecord
  · split at hpayload
    · cases hpayload
      exact hrecord
    · cases hpayload

theorem leapsAtMinuteEnd_of_decode {token : String} {c : Cursor} (h : decode token = .ok c) :
    c.timestamp.LeapsAtMinuteEnd := by
  obtain ⟨-, bytes, -, hrecord⟩ := decode_eq_ok_iff.1 h
  exact hrecord.leapsAtMinuteEnd

theorem encode_ne_empty (c : Cursor) : c.encode ≠ "" := by
  intro hempty
  have hlength : (Text.Base64.encode (Text.toBytes (Json.print c.payloadJson))).length = 0 := by
    rw [← String.length_ofList, ← encode, hempty]
    rfl
  rw [Text.Base64.length_encode, toBytes_payload, List.length_cons] at hlength
  omega

/-- Every cursor has a token of a size that is read.  It reads back as that cursor if a leap second
in it ends its minute, and else with the second after it, so that what any token stands for, however
that token is written, has a token of its own. -/
theorem token_roundTrip :
    (∀ c : Cursor, c.encode ≠ "" ∧ c.encode.utf8ByteSize ≤ 4096 ∧
      decode c.encode = .ok ⟨c.lastId, c.timestamp.asPrinted⟩ ∧
        (decode c.encode = .ok c ↔ c.timestamp.LeapsAtMinuteEnd)) ∧
      ∀ (token : String) (c : Cursor), decode token = .ok c → decode c.encode = .ok c := by
  constructor
  · intro c
    exact ⟨c.encode_ne_empty, c.utf8ByteSize_encode_le, c.decode_encode, decode_encode_eq_ok_iff⟩
  · intro token c h
    exact decode_encode_eq_ok_iff.2 (leapsAtMinuteEnd_of_decode h)

/-- No boundary, and half of the leap second at the end of June in the year before the year zero. -/
def inLeapSecond : Cursor where
  lastId := none
  timestamp := ⟨-62183116801, 1500000000, by omega, by omega, by omega⟩

/-- A token without filling, whose timestamp is written with a blank and one-digit fields. -/
theorem token_roundTrip_inLeapSecond :
    decode "eyJ0aW1lc3RhbXAiOiItMS02LTMwIDIzOjU5OjYwLjVaIn0" = .ok inLeapSecond ∧
      decode inLeapSecond.encode = .ok inLeapSecond := by
  have hread : decode "eyJ0aW1lc3RhbXAiOiItMS02LTMwIDIzOjU5OjYwLjVaIn0" = .ok inLeapSecond := by
    decide +kernel
  exact ⟨hread, token_roundTrip.2 _ _ hread⟩

/-- Half of a leap second behind half a minute. -/
def withinMinute : Cursor where
  lastId := some .nil
  timestamp := ⟨30, 1500000000, by omega, by omega, by omega⟩

/-- The token of a leap second within a minute stands for another instant. -/
theorem decode_encode_withinMinute :
    ∃ c, decode withinMinute.encode = .ok c ∧ c ≠ withinMinute ∧ c.timestamp.seconds = 31 ∧
      c.timestamp.nanos = 500000000 :=
  ⟨_, decode_encode _, by decide, by decide, by decide⟩

end Cursor

end EventCatalog
