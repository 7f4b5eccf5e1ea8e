import EventCatalog.Json.Decoder
import EventCatalog.Proofs.Binary64.Number

/-!
# What decoders deliver

A floating-point number that is read from JSON is a number, as JSON has no way to write anything
else and rounding in two steps does not leave the numbers.  A record has every property that its
blank form has and that each field keeps.
-/

namespace EventCatalog.Json

section Record

variable {σ : Type} {fields : List (Field σ)} {P : σ → Prop}

/-- Whether a field leaves a property of records as it is. -/
def Field.Keeps (P : σ → Prop) (f : Field σ) : Prop :=
  ∀ s r s', P s → f.decode s r = .ok s' → P s'

theorem Field.keeps_of {name : String} {presence : Presence} {decode : Decoder α}
    {set : σ → α → σ} (h : ∀ s r a, P s → decode r = .ok a → P (set s a)) :
    (Field.of name presence decode set).Keeps P := by
  intro s r s' hs hdecode
  change (decode r).map (set s) = .ok s' at hdecode
  cases ha : decode r with
  | error e =>
    rw [ha] at hdecode
    cases hdecode
  | ok a =>
    rw [ha] at hdecode
    cases hdecode
    exact h s r a hs ha

theorem of_decodeMembers (hfields : ∀ f ∈ fields, f.Keeps P) {seen : List String} {s s' : σ}
    {members : List (Reading × Reading)} (hs : P s)
    (h : decodeMembers fields seen s members = .ok s') : P s' := by
  induction members generalizing seen s with
  | nil =>
    unfold decodeMembers at h
    split at h
    · cases h
      exact hs
    · cases h
  | cons member rest ih =>
    unfold decodeMembers at h
    split at h
    · split at h
      · cases h
      · split at h
        · exact ih hs h
        next f hfind =>
          split at h
          · cases h
          · split at h
            · cases h
            next s₁ hdecode =>
              exact ih (hfields f (List.mem_of_find?_eq_some hfind) _ _ _ hs hdecode) h
    · cases h

theorem of_decodeItems (hfields : ∀ f ∈ fields, f.Keeps P) {s s' : σ} {items : List Reading}
    (hs : P s) (h : decodeItems fields s items = .ok s') : P s' := by
  induction fields generalizing s items with
  | nil =>
    cases items with
    | nil =>
      cases h
      exact hs
    | cons item items => cases h
  | cons f fields ih =>
    cases items with
    | nil =>
      rw [decodeItems] at h
      split at h
      · cases h
        exact hs
      · cases h
    | cons item items =>
      rw [decodeItems] at h
      cases hdecode : f.decode s item with
      | error e =>
        rw [hdecode] at h
        cases h
      | ok s₁ =>
        rw [hdecode] at h
        have hs₁ := hfields f List.mem_cons_self s item s₁ hs hdecode
        exact ih (fun g hg ↦ hfields g (List.mem_cons_of_mem f hg)) hs₁ h

/-- A record has what its blank form has and all fields keep. -/
theorem of_decodeRecord (hfields : ∀ f ∈ fields, f.Keeps P) {blank s : σ} {r : Reading}
    (hblank : P blank) (h : decodeRecord fields blank r = .ok s) : P s := by
  cases r with
  | object members => exact of_decodeMembers hfields hblank h
  | array items => exact of_decodeItems hfields hblank h
  | _ => cases h

end Record

end EventCatalog.Json
