import EventCatalog.Json.Basic
import EventCatalog.Json.Decoder
import EventCatalog.Proofs.Text.Ascii

/-!
# Records of plain texts read back

A printed object whose names and values are plain texts reads back member by member.  A plain text
holds printable ASCII characters other than the quote and the backslash, so that it is written as it
is and nothing in it ends the quotes early.
-/

namespace EventCatalog.Json

open Text (IsAscii asciiByte)

/-- Whether a character stands for itself inside quotes, as one byte. -/
def IsPlainChar (c : Char) : Prop := 32 ≤ c.toNat ∧ c.toNat < 128 ∧ c ≠ '"' ∧ c ≠ '\\'

instance (c : Char) : Decidable (IsPlainChar c) :=
  inferInstanceAs (Decidable (32 ≤ c.toNat ∧ c.toNat < 128 ∧ c ≠ '"' ∧ c ≠ '\\'))

/-- Whether all characters stand for themselves inside quotes. -/
def IsPlain (cs : List Char) : Prop := ∀ c ∈ cs, IsPlainChar c

instance (cs : List Char) : Decidable (IsPlain cs) := List.decidableBAll IsPlainChar cs

theorem IsPlain.isAscii {cs : List Char} (h : IsPlain cs) : IsAscii cs :=
  fun c hc ↦ (h c hc).2.1

theorem isPlain_nil : IsPlain [] := by simp [IsPlain]

@[simp]
theorem isPlain_cons (c : Char) (cs : List Char) :
    IsPlain (c :: cs) ↔ IsPlainChar c ∧ IsPlain cs := by
  simp [IsPlain]

@[simp]
theorem isPlain_append (cs ds : List Char) : IsPlain (cs ++ ds) ↔ IsPlain cs ∧ IsPlain ds := by
  simp only [IsPlain, List.mem_append]
  constructor
  · intro h
    exact ⟨fun c hc ↦ h c (.inl hc), fun c hc ↦ h c (.inr hc)⟩
  · rintro ⟨hcs, hds⟩ c (hc | hc)
    · exact hcs c hc
    · exact hds c hc

theorem escape_of_plain {c : Char} (h : IsPlainChar c) : escape c = [c] := by
  obtain ⟨hlow, hhigh, hquote, hbackslash⟩ := h
  have hne : ∀ d : Char, d.toNat < 32 → c ≠ d := by
    rintro d hd rfl
    omega
  simp only [escape, hquote, hbackslash, hne '\n' (by decide), hne '\r' (by decide),
    hne '\t' (by decide), show c.toNat ≠ 8 by omega, show c.toNat ≠ 12 by omega,
    show ¬c.toNat < 32 by omega, if_false]

theorem quote_ofList {cs : List Char} (h : IsPlain cs) :
    quote (String.ofList cs) = '"' :: (cs ++ ['"']) := by
  have hescape : cs.flatMap escape = cs := by
    induction cs with
    | nil => rfl
    | cons c cs ih =>
      rw [List.flatMap_cons, escape_of_plain (h c List.mem_cons_self),
        ih fun d hd ↦ h d (List.mem_cons_of_mem c hd)]
      rfl
  rw [quote, String.toList_ofList, hescape]
  rfl

/-- The pieces of a plain text. -/
def plainParts (cs : List Char) : List QuotedPart := cs.map fun c ↦ .byte (asciiByte c)

theorem readQuoted_plain {cs : List Char} (h : IsPlain cs) (rest : List UInt8) :
    readQuoted (cs.map asciiByte ++ 0x22 :: rest) = (plainParts cs, some rest) := by
  induction cs with
  | nil =>
    rw [List.map_nil, List.nil_append, readQuoted.eq_def]
    rfl
  | cons c cs ih =>
    obtain ⟨hlow, hhigh, hquote, hbackslash⟩ := h c List.mem_cons_self
    have hbyte := Text.toNat_asciiByte hhigh
    have hne : ∀ d : Char, d.toNat < 128 → c ≠ d → asciiByte c ≠ asciiByte d := by
      intro d hd hcd heq
      apply hcd
      rw [← Char.toNat_inj, ← hbyte, heq, Text.toNat_asciiByte hd]
    have hcontrol : ¬(asciiByte c).toNat < 32 := by omega
    have hquoteByte : asciiByte c ≠ 0x22 := hne '"' (by decide) hquote
    have hbackslashByte : asciiByte c ≠ 0x5C := hne '\\' (by decide) hbackslash
    rw [List.map_cons, List.cons_append, readQuoted.eq_def]
    simp only [hquoteByte, hbackslashByte, hcontrol, if_false,
      ih fun d hd ↦ h d (List.mem_cons_of_mem c hd)]
    rfl

theorem quotedText?_plain {cs : List Char} (h : IsPlain cs) :
    quotedText? (plainParts cs) = some (String.ofList cs) := by
  have hbytes : quotedBytes? (plainParts cs) = some (cs.map asciiByte) := by
    clear h
    induction cs with
    | nil => rfl
    | cons c cs ih =>
      rw [plainParts, List.map_cons, quotedBytes?, ← plainParts, ih]
      rfl
  rw [quotedText?, hbytes, Option.bind_some, Text.ofBytes?_map_asciiByte h.isAscii]

/-- A plain text in quotes is read as a string. -/
theorem readValue_plain {cs : List Char} (h : IsPlain cs) (fuel : Nat) (rest : List UInt8) :
    readValue (fuel + 1) (0x22 :: (cs.map asciiByte ++ 0x22 :: rest)) =
      (.string (plainParts cs), some rest) := by
  have hblanks : skipBlanks (0x22 :: (cs.map asciiByte ++ 0x22 :: rest)) =
      0x22 :: (cs.map asciiByte ++ 0x22 :: rest) := rfl
  rw [readValue, hblanks]
  simp [readQuoted_plain h]

/-- A member of a record: a name and a value. -/
abbrev PlainMember := List Char × List Char

/-- Whether a name and a value are plain. -/
def PlainMember.IsPlain (m : PlainMember) : Prop := Json.IsPlain m.1 ∧ Json.IsPlain m.2

/-- The printed form of a member. -/
def memberBytes (m : PlainMember) (rest : List UInt8) : List UInt8 :=
  0x22 :: (m.1.map asciiByte ++ 0x22 :: 0x3A :: 0x22 :: (m.2.map asciiByte ++ 0x22 :: rest))

/-- What is read of a member. -/
def memberReading (m : PlainMember) : Reading × Reading :=
  (.string (plainParts m.1), .string (plainParts m.2))

/-- The printed form of the members behind the first, and of the closing brace. -/
def laterBytes : List PlainMember → List UInt8 → List UInt8
  | [], rest => 0x7D :: rest
  | m :: ms, rest => 0x2C :: memberBytes m (laterBytes ms rest)

theorem readMembers_close (fuel : Nat) (first : Bool) (rest : List UInt8) :
    readMembers (fuel + 1) first (0x7D :: rest) = ([], some rest) := by
  have hblanks : skipBlanks (0x7D :: rest) = 0x7D :: rest := rfl
  rw [readMembers, hblanks]
  simp

/-- The first member is read, then those behind it. -/
theorem readMembers_first {m : PlainMember} (hname : IsPlain m.1) (hvalue : IsPlain m.2)
    (fuel : Nat) (rest : List UInt8) {members : List (Reading × Reading)}
    {left : Option (List UInt8)} (h : readMembers (fuel + 1) false rest = (members, left)) :
    readMembers (fuel + 2) true (memberBytes m rest) = (memberReading m :: members, left) := by
  have hblanks : ∀ bytes, skipBlanks (0x22 :: bytes) = 0x22 :: bytes := fun _ ↦ rfl
  have hcolon : ∀ bytes, skipBlanks (0x3A :: bytes) = 0x3A :: bytes := fun _ ↦ rfl
  rw [readMembers, memberBytes, hblanks]
  simp [hblanks, hcolon, readQuoted_plain hname, readValue_plain hvalue, h, memberReading]

/-- A later member is read after its comma. -/
theorem readMembers_later {m : PlainMember} (hname : IsPlain m.1) (hvalue : IsPlain m.2)
    (fuel : Nat) (rest : List UInt8) {members : List (Reading × Reading)}
    {left : Option (List UInt8)} (h : readMembers (fuel + 1) false rest = (members, left)) :
    readMembers (fuel + 2) false (0x2C :: memberBytes m rest) =
      (memberReading m :: members, left) := by
  have hblanks : ∀ bytes, skipBlanks (0x22 :: bytes) = 0x22 :: bytes := fun _ ↦ rfl
  have hcolon : ∀ bytes, skipBlanks (0x3A :: bytes) = 0x3A :: bytes := fun _ ↦ rfl
  have hcomma : ∀ bytes, skipBlanks (0x2C :: bytes) = 0x2C :: bytes := fun _ ↦ rfl
  rw [readMembers, hcomma, memberBytes]
  simp [hblanks, hcolon, readQuoted_plain hname, readValue_plain hvalue, h, memberReading]

theorem readMembers_laterBytes {ms : List PlainMember}
    (h : ∀ m ∈ ms, PlainMember.IsPlain m) (fuel : Nat) (rest : List UInt8) :
    readMembers (fuel + ms.length + 1) false (laterBytes ms rest) =
      (ms.map memberReading, some rest) := by
  induction ms with
  | nil => exact readMembers_close _ _ _
  | cons m ms ih =>
    obtain ⟨hname, hvalue⟩ := h m List.mem_cons_self
    have hlater := ih fun n hn ↦ h n (List.mem_cons_of_mem m hn)
    exact readMembers_later hname hvalue _ _ hlater

theorem length_laterBytes (ms : List PlainMember) (rest : List UInt8) :
    ms.length ≤ (laterBytes ms rest).length := by
  induction ms with
  | nil => simp [laterBytes]
  | cons m ms ih =>
    simp only [laterBytes, memberBytes, List.length_cons, List.length_append]
    omega

/-- The whole text of a record is read as its members. -/
theorem readBytes_record {m : PlainMember} {ms : List PlainMember}
    (h : ∀ n ∈ m :: ms, PlainMember.IsPlain n) :
    readBytes (0x7B :: memberBytes m (laterBytes ms [])) =
      ⟨.object ((m :: ms).map memberReading), true⟩ := by
  obtain ⟨hm, hms⟩ := List.forall_mem_cons.1 h
  have hlength : ms.length ≤ (memberBytes m (laterBytes ms [])).length := by
    have hlater := length_laterBytes ms []
    simp only [memberBytes, List.length_cons, List.length_append]
    omega
  obtain ⟨fuel, hfuel⟩ : ∃ fuel, 2 * (0x7B :: memberBytes m (laterBytes ms [])).length + 2 =
      fuel + ms.length + 2 + 1 := by
    refine ⟨2 * (0x7B :: memberBytes m (laterBytes ms [])).length - ms.length - 1, ?_⟩
    simp only [List.length_cons]
    omega
  have hmembers := readMembers_first hm.1 hm.2 _ _ (readMembers_laterBytes hms fuel [])
  have hblanks : ∀ bytes, skipBlanks (0x7B :: bytes) = 0x7B :: bytes := fun _ ↦ rfl
  rw [readBytes, hfuel, readValue, hblanks]
  simp [hmembers, skipBlanks]

/-- The record of some members as a value. -/
def ofPlainMembers (ms : List PlainMember) : Json :=
  .object (ms.map fun m ↦ (String.ofList m.1, .string (String.ofList m.2)))

/-- A member as it is printed. -/
def memberChars (m : PlainMember) (rest : List Char) : List Char :=
  '"' :: (m.1 ++ '"' :: ':' :: '"' :: (m.2 ++ '"' :: rest))

theorem memberChars_eq {m : PlainMember} (h : m.IsPlain) (rest : List Char) :
    quote (String.ofList m.1) ++ ':' :: toChars (.string (String.ofList m.2)) ++ rest =
      memberChars m rest := by
  simp [toChars, quote_ofList h.1, quote_ofList h.2, memberChars]

theorem map_asciiByte_memberChars (m : PlainMember) (rest : List Char) :
    (memberChars m rest).map asciiByte = memberBytes m (rest.map asciiByte) := by
  simp only [memberChars, memberBytes, List.map_cons, List.map_append]
  rfl

theorem isAscii_memberChars {m : PlainMember} (h : m.IsPlain) {rest : List Char}
    (hrest : IsAscii rest) : IsAscii (memberChars m rest) := by
  have hname := h.1.isAscii
  have hvalue := h.2.isAscii
  intro c hc
  simp only [memberChars, List.mem_cons, List.mem_append] at hc
  rcases hc with rfl | hc | rfl | rfl | rfl | hc | rfl | hc
  · decide
  · exact hname c hc
  · decide
  · decide
  · decide
  · exact hvalue c hc
  · decide
  · exact hrest c hc

theorem membersChars_plain {ms : List PlainMember} (h : ∀ m ∈ ms, PlainMember.IsPlain m) :
    IsAscii (membersChars (ms.map fun m ↦ (String.ofList m.1, .string (String.ofList m.2)))) ∧
      (membersChars (ms.map fun m ↦ (String.ofList m.1, .string (String.ofList m.2)))).map
        asciiByte = laterBytes ms [] := by
  induction ms with
  | nil =>
    rw [List.map_nil, membersChars]
    refine ⟨fun c hc ↦ ?_, rfl⟩
    rw [List.mem_singleton.1 hc]
    decide
  | cons m ms ih =>
    obtain ⟨hm, hms⟩ := List.forall_mem_cons.1 h
    obtain ⟨hascii, hbytes⟩ := ih hms
    rw [List.map_cons, membersChars, List.cons_append, List.cons_append, memberChars_eq hm,
      List.map_cons, map_asciiByte_memberChars, hbytes]
    refine ⟨?_, rfl⟩
    rintro c (_ | ⟨_, hc⟩)
    · decide
    · exact isAscii_memberChars hm hascii c hc

/-- The bytes of a printed record. -/
theorem toBytes_print {m : PlainMember} {ms : List PlainMember}
    (h : ∀ n ∈ m :: ms, PlainMember.IsPlain n) :
    Text.toBytes (print (ofPlainMembers (m :: ms))) =
      0x7B :: memberBytes m (laterBytes ms []) := by
  obtain ⟨hm, hms⟩ := List.forall_mem_cons.1 h
  obtain ⟨hascii, hbytes⟩ := membersChars_plain hms
  have hall := isAscii_memberChars hm hascii
  rw [print, ofPlainMembers, List.map_cons, toChars, List.cons_append, List.cons_append,
    memberChars_eq hm, Text.toBytes_ofList, List.map_cons, map_asciiByte_memberChars, hbytes]
  · rfl
  · rintro c (_ | ⟨_, hc⟩)
    · decide
    · exact hall c hc

end EventCatalog.Json
