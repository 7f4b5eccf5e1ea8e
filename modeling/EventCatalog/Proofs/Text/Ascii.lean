import EventCatalog.Text.Utf8

/-!
# ASCII texts as bytes

A text of ASCII characters has one byte for each character, and the bytes read back as the text.
-/

namespace EventCatalog.Text

/-- Whether all characters are ASCII. -/
def IsAscii (cs : List Char) : Prop := ∀ c ∈ cs, c.toNat < 128

/-- The byte of an ASCII character. -/
def asciiByte (c : Char) : UInt8 := UInt8.ofNat c.toNat

theorem utf8EncodeChar_of_ascii {c : Char} (h : c.toNat < 128) :
    String.utf8EncodeChar c = [asciiByte c] := by
  have hsize : c.utf8Size = 1 := by
    rw [Char.utf8Size, if_pos]
    rw [UInt32.le_iff_toNat_le]
    exact Nat.le_of_lt_succ h
  rw [String.utf8EncodeChar_eq_singleton hsize]
  rfl

theorem flatMap_utf8EncodeChar {cs : List Char} (h : IsAscii cs) :
    cs.flatMap String.utf8EncodeChar = cs.map asciiByte := by
  induction cs with
  | nil => rfl
  | cons c cs ih =>
    have hc := utf8EncodeChar_of_ascii (h c List.mem_cons_self)
    have hcs := ih fun d hd ↦ h d (List.mem_cons_of_mem c hd)
    rw [List.flatMap_cons, hc, hcs]
    rfl

theorem toBytes_ofList {cs : List Char} (h : IsAscii cs) :
    toBytes (String.ofList cs) = cs.map asciiByte := by
  rw [toBytes, String.toList_ofList, flatMap_utf8EncodeChar h]

theorem utf8ByteSize_ofList {cs : List Char} (h : IsAscii cs) :
    (String.ofList cs).utf8ByteSize = cs.length := by
  have hsize : (String.ofList cs).utf8ByteSize = (cs.flatMap String.utf8EncodeChar).length := by
    rw [← String.size_toByteArray, String.toByteArray_ofList, List.utf8Encode,
      List.size_toByteArray]
  rw [hsize, flatMap_utf8EncodeChar h, List.length_map]

theorem toNat_asciiByte {c : Char} (h : c.toNat < 128) : (asciiByte c).toNat = c.toNat := by
  rw [asciiByte, UInt8.toNat_ofNat']
  omega

theorem scan_map_asciiByte {cs : List Char} (h : IsAscii cs) :
    scan none (cs.map asciiByte) = cs.map some := by
  induction cs with
  | nil => rfl
  | cons c cs ih =>
    have hc := toNat_asciiByte (h c List.mem_cons_self)
    have hascii : isAscii (asciiByte c) = true := by
      simpa [isAscii, hc] using h c List.mem_cons_self
    rw [List.map_cons, scan_cons_of_ascii hascii, hc, Char.ofNat_toNat,
      ih fun d hd ↦ h d (List.mem_cons_of_mem c hd)]
    rfl

theorem ofBytes?_map_asciiByte {cs : List Char} (h : IsAscii cs) :
    ofBytes? (cs.map asciiByte) = some (String.ofList cs) := by
  have hmapM : (cs.map some).mapM id = some cs := by
    simpa [List.mapM_map] using List.mapM_pure (m := Option) (f := id) (l := cs)
  rw [ofBytes?, charsOfBytes?, scan_map_asciiByte h, hmapM]
  rfl

end EventCatalog.Text
