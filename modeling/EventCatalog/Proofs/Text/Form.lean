import EventCatalog.Proofs.Text.Ascii
import EventCatalog.Text.Form

/-!
# Pairs of a form that need no escapes

ASCII text without plus and percent signs stands for itself in a form.  A run of a form that writes
such a name and such a value is read as this pair, wherever in the form it stands.
-/

namespace EventCatalog.Text

/-- Whether a text stands for itself in a form. -/
def IsUnescaped (cs : List Char) : Prop := ∀ c ∈ cs, c.toNat < 128 ∧ c ≠ '+' ∧ c ≠ '%'

instance (cs : List Char) : Decidable (IsUnescaped cs) :=
  List.decidableBAll (fun c : Char ↦ c.toNat < 128 ∧ c ≠ '+' ∧ c ≠ '%') cs

variable {cs name value : List Char} {bytes : List UInt8}

theorem IsUnescaped.isAscii (h : IsUnescaped cs) : IsAscii cs :=
  fun c hc ↦ (h c hc).1

theorem asciiByte_ne {c d : Char} (hc : c.toNat < 128) (hd : d.toNat < 128) (h : c ≠ d) :
    asciiByte c ≠ asciiByte d := by
  intro heq
  have hnat := congrArg UInt8.toNat heq
  rw [toNat_asciiByte hc, toNat_asciiByte hd] at hnat
  exact h (Char.toNat_inj.1 hnat)

theorem percentDecode_of_notMem (h : '%'.toUInt8 ∉ bytes) : percentDecode bytes = bytes := by
  fun_induction percentDecode bytes with
  | case1 => rfl
  | case2 b => rfl
  | case3 b c => rfl
  | case4 => exact absurd List.mem_cons_self h
  | case5 => exact absurd List.mem_cons_self h
  | case6 b high low rest hb ih => rw [ih (List.not_mem_of_not_mem_cons h)]

/-- Text that needs no escapes is read as it is written. -/
theorem formText_map_asciiByte (h : IsUnescaped cs) :
    formText (cs.map asciiByte) = String.ofList cs := by
  have hplus : (cs.map asciiByte).map (fun b ↦ if b = '+'.toUInt8 then ' '.toUInt8 else b) =
      cs.map asciiByte := by
    rw [List.map_map]
    apply List.map_congr_left
    intro c hc
    obtain ⟨hascii, hne, -⟩ := h c hc
    exact if_neg (asciiByte_ne hascii (by decide) hne)
  have hpercent : '%'.toUInt8 ∉ cs.map asciiByte := by
    intro hmem
    obtain ⟨c, hc, heq⟩ := List.mem_map.1 hmem
    obtain ⟨hascii, -, hne⟩ := h c hc
    exact asciiByte_ne hascii (by decide) hne heq
  rw [formText, hplus, percentDecode_of_notMem hpercent, ofBytesLossy,
    scan_map_asciiByte h.isAscii, List.map_map]
  exact congrArg String.ofList (List.map_id cs)

/-- The name and the value of a run. -/
theorem takeWhile_run (hname : IsUnescaped name) (hequals : '=' ∉ name) :
    ((name ++ '=' :: value).map asciiByte).takeWhile (· != '='.toUInt8) =
      name.map asciiByte := by
  have hne : ∀ b ∈ name.map asciiByte, (b != '='.toUInt8) = true := by
    intro b hb
    obtain ⟨c, hc, rfl⟩ := List.mem_map.1 hb
    have hother : c ≠ '=' := fun heq ↦ hequals (heq ▸ hc)
    exact bne_iff_ne.2 (asciiByte_ne (hname.isAscii c hc) (by decide) hother)
  rw [List.map_append, List.takeWhile_append_of_pos hne, List.map_cons,
    List.takeWhile_cons_of_neg (by decide), List.append_nil]

/-- A run that needs no escapes is the pair that it writes. -/
theorem mem_formPairs (hname : IsUnescaped name) (hequals : '=' ∉ name) (hvalue : IsUnescaped value)
    (h : (name ++ '=' :: value).map asciiByte ∈ bytes.splitOn '&'.toUInt8) :
    (String.ofList name, String.ofList value) ∈ formPairs bytes := by
  have hrun : (name ++ '=' :: value).map asciiByte ∈
      (bytes.splitOn '&'.toUInt8).filter (!·.isEmpty) :=
    List.mem_filter.2 ⟨h, by simp⟩
  refine List.mem_map.2 ⟨_, hrun, ?_⟩
  have hrest : ((name ++ '=' :: value).map asciiByte).drop ((name.map asciiByte).length + 1) =
      value.map asciiByte := by
    rw [List.map_append, List.drop_append]
    simp
  simp only [takeWhile_run hname hequals, hrest, formText_map_asciiByte hname,
    formText_map_asciiByte hvalue]

end EventCatalog.Text
