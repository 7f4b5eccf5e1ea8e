import EventCatalog.Proofs.Cursor
import EventCatalog.Proofs.Text.Filling

/-!
# Tokens with and without their filling

A token reads as the same cursor with its filling and without any, whatever record is inside it.
Filling a token up never makes it too large, as the largest size is that of whole groups.  A token
that is read is not too large, has no part of its filling only, and has no bits at its end that
belong to no byte.
-/

namespace EventCatalog.Cursor

/-- The token without the filling at its end. -/
def unfilled (token : String) : String := String.ofList (Text.Base64.unfilled token.toList)

/-- The token with filling up to whole groups of four characters. -/
def filled (token : String) : String := String.ofList (Text.Base64.filled token.toList)

/-- The form of the tokens that are read. -/
structure IsWellFormed (token : String) : Prop where
  size_le : token.utf8ByteSize ≤ maxTokenSize
  filling : token = unfilled token ∨ token = filled (unfilled token)
  spareBits : Text.Base64.spareBits (unfilled token).toList = 0

/-- The characters of a token that is read are ASCII, so its size is their number. -/
theorem utf8ByteSize_of_decode? {cs : List Char} {bytes : List UInt8}
    (h : Text.Base64.decode? cs = some bytes) : (String.ofList cs).utf8ByteSize = cs.length := by
  apply Text.utf8ByteSize_ofList
  obtain ⟨hread, hcs⟩ := Text.Base64.decode?_eq_some_iff.1 h
  have hbody := (Text.Base64.hasValues_of_decodeBare? hread).isAscii
  rcases hcs with hcs | hcs
  · rw [hcs]
    exact hbody
  · rw [hcs]
    exact List.forall_mem_append.2 ⟨hbody, fun c hc ↦ by rw [List.eq_of_mem_replicate hc]; decide⟩

/-- Tokens are read by the number of their characters and the bytes that they stand for. -/
theorem decode_ofList_eq_ok_iff {cs : List Char} {c : Cursor} :
    decode (String.ofList cs) = .ok c ↔
      cs.length ≤ maxTokenSize ∧ ∃ bytes, Text.Base64.decode? cs = some bytes ∧ IsRecord bytes c := by
  rw [decode_eq_ok_iff, String.toList_ofList]
  constructor
  · rintro ⟨hsize, bytes, hread, hrecord⟩
    rw [utf8ByteSize_of_decode? hread] at hsize
    exact ⟨hsize, bytes, hread, hrecord⟩
  · rintro ⟨hsize, bytes, hread, hrecord⟩
    rw [← utf8ByteSize_of_decode? hread] at hsize
    exact ⟨hsize, bytes, hread, hrecord⟩

section List

variable {cs : List Char} {c : Cursor}

/-- Whole groups fit into the largest size as soon as what they fill up does. -/
theorem decode_filled_iff (h : '=' ∉ cs) :
    decode (String.ofList (Text.Base64.filled cs)) = .ok c ↔ decode (String.ofList cs) = .ok c := by
  have hsize : (Text.Base64.filled cs).length ≤ maxTokenSize ↔ cs.length ≤ maxTokenSize := by
    rw [Text.Base64.length_filled, maxTokenSize]
    omega
  rw [decode_ofList_eq_ok_iff, decode_ofList_eq_ok_iff, hsize, Text.Base64.decode?_filled h,
    Text.Base64.decode?_of_notMem h]

theorem decode_unfilled (h : decode (String.ofList cs) = .ok c) :
    decode (String.ofList (Text.Base64.unfilled cs)) = .ok c := by
  obtain ⟨hsize, bytes, hread, hrecord⟩ := decode_ofList_eq_ok_iff.1 h
  have hbare := (Text.Base64.decode?_eq_some_iff.1 hread).1
  have hbody := (Text.Base64.hasValues_of_decodeBare? hbare).notMem
  have hshorter : (Text.Base64.unfilled cs).length ≤ cs.length :=
    (List.rdropWhile_prefix _ cs).length_le
  rw [decode_ofList_eq_ok_iff, Text.Base64.decode?_of_notMem hbody]
  exact ⟨hshorter.trans hsize, bytes, hbare, hrecord⟩

theorem isWellFormed_of_decode (h : decode (String.ofList cs) = .ok c) :
    IsWellFormed (String.ofList cs) := by
  obtain ⟨hsize, bytes, hread, -⟩ := decode_eq_ok_iff.1 h
  rw [String.toList_ofList] at hread
  obtain ⟨hbare, hform⟩ := Text.Base64.decode?_eq_some_iff.1 hread
  refine ⟨hsize, ?_, ?_⟩
  · simp only [unfilled, filled, String.toList_ofList, String.ofList_inj]
    exact hform
  · simp only [unfilled, String.toList_ofList]
    exact Text.Base64.spareBits_of_decodeBare? hbare

end List

/-- A token that is read stands for the same cursor when its filling is taken away, and filling up a
token without any neither makes it unreadable nor readable.  Tokens that are too large, that have a
part of their filling only, or whose last character has bits to spare are never read. -/
theorem decode_filling (token : String) (c : Cursor) :
    (decode token = .ok c → decode (unfilled token) = .ok c) ∧
      ('=' ∉ token.toList → (decode (filled token) = .ok c ↔ decode token = .ok c)) ∧
      (decode token = .ok c → IsWellFormed token) := by
  have htoken : String.ofList token.toList = token := String.ofList_toList
  refine ⟨fun h ↦ ?_, fun hnone ↦ ?_, fun h ↦ ?_⟩
  · rw [← htoken] at h
    exact decode_unfilled h
  · have hfilled : decode (filled token) = .ok c ↔ decode (String.ofList token.toList) = .ok c :=
      decode_filled_iff hnone
    rw [hfilled, htoken]
  · rw [← htoken] at h ⊢
    exact isWellFormed_of_decode h

/-- The token of an empty record, which no cursor is written as. -/
theorem decode_filling_emptyRecord :
    ('=' ∉ "e30".toList ∧ decode "e30" = .ok ⟨none, Instant.epoch⟩) ∧
      decode "e30=" = .ok ⟨none, Instant.epoch⟩ ∧ IsWellFormed "e30=" := by
  have hnone : '=' ∉ "e30".toList := by decide
  have hbare : decode "e30" = .ok ⟨none, Instant.epoch⟩ := by decide +kernel
  have hfilled : filled "e30" = "e30=" := by decide
  have hread := ((decode_filling "e30" ⟨none, Instant.epoch⟩).2.1 hnone).2 hbare
  rw [hfilled] at hread
  exact ⟨⟨hnone, hbare⟩, hread, (decode_filling "e30=" _).2.2 hread⟩

end EventCatalog.Cursor
