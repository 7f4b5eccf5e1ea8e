import EventCatalog.Proofs.Binary64.Number
import EventCatalog.Proofs.Text.Unsigned

/-!
# Numbers as texts

Which texts are numbers: a name, or decimal digits with at most one point and at most one exponent,
behind a sign or none.  Digits are always read as a number, possibly an infinite one.  What is no
number is only read from its name, in either case and with or without a sign.
-/

namespace EventCatalog.Binary64

open Text

/-- Whether characters are a sign or none, and whether they are a minus. -/
inductive WritesSign : List Char → Bool → Prop
  | none : WritesSign [] false
  | plus : WritesSign ['+'] false
  | minus : WritesSign ['-'] true

/-- Whether characters are digits behind a point, or nothing at all. -/
inductive WritesFraction : List Char → List Nat → Prop
  | none : WritesFraction [] []
  | digits {values : List Nat} (hvalues : ∀ d ∈ values, d < 10) :
      WritesFraction ('.' :: values.map digitChar) values

/-- Whether characters are an exponent: a mark, a sign or none and at least one digit, or nothing at
all. -/
inductive WritesExponent : List Char → Int → Prop
  | none : WritesExponent [] 0
  | digits {mark : Char} {sign : List Char} {negative : Bool} {values : List Nat}
      (hmark : mark = 'e' ∨ mark = 'E') (hsign : WritesSign sign negative) (hsome : values ≠ [])
      (hvalues : ∀ d ∈ values, d < 10) :
      WritesExponent (mark :: (sign ++ values.map digitChar))
        (if negative then -((Nat.ofDigits 10 values.reverse : Nat) : Int)
          else (Nat.ofDigits 10 values.reverse : Nat))

/-- Whether characters write a number without its sign: the name of infinity or of what is no number
in either case, or digits, of which there is at least one, around at most one point and in front of
an exponent. -/
inductive WritesMagnitude (negative : Bool) : List Char → Binary64 → Prop
  | infinity {name : List Char}
      (h : name.map Char.toLower = "inf".toList ∨ name.map Char.toLower = "infinity".toList) :
      WritesMagnitude negative name (.infinity negative)
  | nan {name : List Char} (h : name.map Char.toLower = "nan".toList) :
      WritesMagnitude negative name (if negative then Binary64.nan.neg else .nan)
  | decimal {whole fraction : List Nat} {point exponent : List Char} {e : Int}
      (hwhole : ∀ d ∈ whole, d < 10) (hfraction : WritesFraction point fraction)
      (hsome : whole ++ fraction ≠ []) (hexponent : WritesExponent exponent e) :
      WritesMagnitude negative (whole.map digitChar ++ (point ++ exponent))
        (ofDecimal negative (Nat.ofDigits 10 (whole ++ fraction).reverse) (e - fraction.length))

/-- Whether a text writes a number: its sign or none, and the number without it. -/
def WritesNumber (s : String) (x : Binary64) : Prop :=
  ∃ sign negative cs, WritesSign sign negative ∧ s.toList = sign ++ cs ∧
    WritesMagnitude negative cs x

/-- Whether a text is the name of what is no number. -/
def NamesNaN (s : String) : Prop :=
  ∃ sign ∈ [[], ['+'], ['-']], ∃ name, s.toList = sign ++ name ∧
    name.map Char.toLower = ['n', 'a', 'n']

section Parts

variable {cs rest sign point exponent : List Char} {values fraction : List Nat} {negative : Bool}
  {e : Int}

theorem natOfDigits_eq (values : List Nat) :
    natOfDigits values = Nat.ofDigits 10 values.reverse := by
  rw [← continued_zero, natOfDigits, continued]
  congr 1
  funext n d
  rw [Nat.mul_comm]

theorem spanDigits_digitChar {d : Nat} (hd : d < 10) (cs : List Char) :
    spanDigits (digitChar d :: cs) = (d :: (spanDigits cs).1, (spanDigits cs).2) := by
  have hdigit : (digitChar d).isDigit = true := isDigit_iff.2 ⟨d, hd, rfl⟩
  simp [spanDigits, hdigit, decimalDigit?_digitChar d hd]

theorem spanDigits_of_head? (h : ∀ c ∈ cs.head?, c.isDigit = false) : spanDigits cs = ([], cs) := by
  cases cs with
  | nil => rfl
  | cons c cs => simp [spanDigits, h c rfl]

/-- What stands in front of the rest are digits. -/
theorem writes_spanDigits (cs : List Char) :
    (∀ d ∈ (spanDigits cs).1, d < 10) ∧
      cs = (spanDigits cs).1.map digitChar ++ (spanDigits cs).2 := by
  induction cs with
  | nil => exact ⟨List.forall_mem_nil _, rfl⟩
  | cons c cs ih =>
    cases hc : c.isDigit with
    | false =>
      rw [spanDigits_of_head? (by simpa using hc)]
      exact ⟨List.forall_mem_nil _, rfl⟩
    | true =>
      obtain ⟨d, hd, rfl⟩ := isDigit_iff.1 hc
      rw [spanDigits_digitChar hd]
      exact ⟨List.forall_mem_cons.2 ⟨hd, ih.1⟩, congrArg (digitChar d :: ·) ih.2⟩

/-- Digits are read up to the first character that is none. -/
theorem spanDigits_append (hvalues : ∀ d ∈ values, d < 10)
    (hrest : ∀ c ∈ rest.head?, c.isDigit = false) :
    spanDigits (values.map digitChar ++ rest) = (values, rest) := by
  induction values with
  | nil => exact spanDigits_of_head? hrest
  | cons d values ih =>
    obtain ⟨hd, hlater⟩ := List.forall_mem_cons.1 hvalues
    rw [List.map_cons, List.cons_append, spanDigits_digitChar hd, ih hlater]

theorem writes_readSign (cs : List Char) :
    ∃ sign, WritesSign sign (readSign cs).1 ∧ cs = sign ++ (readSign cs).2 := by
  rw [readSign.eq_def]
  split
  · exact ⟨_, .minus, rfl⟩
  · exact ⟨_, .plus, rfl⟩
  · exact ⟨_, .none, rfl⟩

theorem readSign_append (hsign : WritesSign sign negative)
    (hrest : ∀ c ∈ rest.head?, c ≠ '-' ∧ c ≠ '+') : readSign (sign ++ rest) = (negative, rest) := by
  cases hsign with
  | minus => rfl
  | plus => rfl
  | none =>
    rw [List.nil_append, readSign.eq_def]
    split
    · exact absurd rfl (hrest '-' rfl).1
    · exact absurd rfl (hrest '+' rfl).2
    · rfl

theorem writes_readFraction (cs : List Char) :
    ∃ point, WritesFraction point (readFraction cs).1 ∧ cs = point ++ (readFraction cs).2 := by
  rw [readFraction.eq_def]
  split
  next cs =>
    obtain ⟨hvalues, hcs⟩ := writes_spanDigits cs
    exact ⟨_, .digits hvalues, congrArg ('.' :: ·) hcs⟩
  next => exact ⟨_, .none, rfl⟩

/-- An exponent starts with its mark. -/
theorem WritesExponent.head?_eq (h : WritesExponent exponent e) :
    ∀ c ∈ exponent.head?, c = 'e' ∨ c = 'E' := by
  cases h with
  | none => exact nofun
  | digits hmark =>
    rintro _ ⟨⟩
    exact hmark

theorem WritesExponent.isDigit_head? (h : WritesExponent exponent e) :
    ∀ c ∈ exponent.head?, c.isDigit = false := by
  intro c hc
  rcases h.head?_eq c hc with rfl | rfl <;> rfl

theorem readFraction_append (hfraction : WritesFraction point fraction)
    (hexponent : WritesExponent exponent e) :
    readFraction (point ++ exponent) = (fraction, exponent) := by
  cases hfraction with
  | digits hvalues => exact spanDigits_append hvalues hexponent.isDigit_head?
  | none =>
    rw [List.nil_append, readFraction.eq_def]
    split
    · rcases hexponent.head?_eq '.' rfl with h | h <;> cases h
    · rfl

theorem readExponent?_eq_some_iff : readExponent? cs = some e ↔ WritesExponent cs e := by
  constructor
  · intro h
    rw [readExponent?.eq_def] at h
    split at h
    · obtain rfl := Option.some.inj h
      exact .none
    next c cs =>
      split at h
      next hmark =>
        split at h
        next d ds hspan =>
          obtain ⟨sign, hsign, hcs⟩ := writes_readSign cs
          obtain ⟨hvalues, hdigits⟩ := writes_spanDigits (readSign cs).2
          rw [hspan] at hvalues hdigits
          rw [hdigits, List.append_nil] at hcs
          have hwrites := WritesExponent.digits hmark hsign (List.cons_ne_nil d ds) hvalues
          rw [← hcs, ← natOfDigits_eq] at hwrites
          exact Option.some.inj h ▸ hwrites
        next => cases h
      next => cases h
  · rintro (_ | ⟨hmark, hsign, hsome, hvalues⟩)
    · rfl
    next values =>
      obtain ⟨d, ds, rfl⟩ := List.exists_cons_of_ne_nil hsome
      have hdigits : ∀ c ∈ ((d :: ds).map digitChar).head?, c ≠ '-' ∧ c ≠ '+' := by
        rintro _ ⟨⟩
        have hd := Nat.lt_of_lt_of_le (hvalues d List.mem_cons_self) (by decide : 10 ≤ 16)
        exact ⟨digitChar_ne_hyphen d hd, digitChar_ne_plus d hd⟩
      have hspan : spanDigits ((d :: ds).map digitChar ++ []) = (d :: ds, []) :=
        spanDigits_append hvalues nofun
      rw [List.append_nil] at hspan
      rw [readExponent?, if_pos hmark, readSign_append hsign hdigits, hspan]
      simp only [natOfDigits_eq]

end Parts

section Numbers

variable {cs : List Char} {negative : Bool} {s : String} {x : Binary64}

theorem readUnsigned?_eq_some_iff :
    readUnsigned? negative cs = some x ↔
      ∃ whole fraction point exponent e, (∀ d ∈ whole, d < 10) ∧ WritesFraction point fraction ∧
        whole ++ fraction ≠ [] ∧ WritesExponent exponent e ∧
          cs = whole.map digitChar ++ (point ++ exponent) ∧
            x = ofDecimal negative (Nat.ofDigits 10 (whole ++ fraction).reverse)
              (e - fraction.length) := by
  constructor
  · intro h
    obtain ⟨hwhole, hcs⟩ := writes_spanDigits cs
    obtain ⟨point, hfraction, hrest⟩ := writes_readFraction (spanDigits cs).2
    simp only [readUnsigned?] at h
    split at h
    next => cases h
    next hsome =>
      obtain ⟨e, hexponent, h⟩ := Option.bind_eq_some_iff.1 h
      refine ⟨_, _, point, _, e, hwhole, hfraction, fun hnil ↦ hsome ?_,
        readExponent?_eq_some_iff.1 hexponent, ?_, ?_⟩
      · simpa using hnil
      · rw [← hrest, ← hcs]
      · rw [← natOfDigits_eq]
        exact (Option.some.inj h).symm
  · rintro ⟨whole, fraction, point, exponent, e, hwhole, hfraction, hsome, hexponent, rfl, rfl⟩
    have hspan : spanDigits (whole.map digitChar ++ (point ++ exponent)) =
        (whole, point ++ exponent) := by
      refine spanDigits_append hwhole ?_
      cases hfraction with
      | none => exact hexponent.isDigit_head?
      | digits =>
        rintro _ ⟨⟩
        rfl
    simp only [readUnsigned?, hspan, readFraction_append hfraction hexponent]
    rw [if_neg (by simpa using hsome), readExponent?_eq_some_iff.2 hexponent, natOfDigits_eq]
    rfl

/-- Digits around a point start with a digit or with the point, hence neither like a name nor with a
sign. -/
theorem exists_start_of_decimal {whole fraction : List Nat} {point : List Char}
    (hwhole : ∀ d ∈ whole, d < 10) (hfraction : WritesFraction point fraction)
    (hsome : whole ++ fraction ≠ []) (exponent : List Char) :
    ∃ c rest, whole.map digitChar ++ (point ++ exponent) = c :: rest ∧
      c.toLower ∉ ['i', 'n', '-', '+'] := by
  cases whole with
  | cons d whole =>
    have hstart : ∀ d < 10, (digitChar d).toLower ∉ ['i', 'n', '-', '+'] := by decide
    exact ⟨_, _, rfl, hstart d (hwhole d List.mem_cons_self)⟩
  | nil =>
    cases hfraction with
    | none => exact absurd rfl hsome
    | digits => exact ⟨_, _, rfl, by decide⟩

/-- A number without its sign starts with no sign. -/
theorem WritesMagnitude.head?_ne (h : WritesMagnitude negative cs x) :
    ∀ c ∈ cs.head?, c ≠ '-' ∧ c ≠ '+' := by
  have hlower : ∀ {first : Char} {later : List Char}, cs.map Char.toLower = first :: later →
      first ∉ ['-', '+'] → ∀ c ∈ cs.head?, c ≠ '-' ∧ c ≠ '+' := by
    intro first later hcs hfirst c hc
    have hc : c.toLower = first := by
      have hhead := congrArg List.head? hcs
      rw [List.head?_map, hc] at hhead
      exact Option.some.inj hhead
    refine ⟨?_, ?_⟩ <;> rintro rfl <;> exact hfirst (hc ▸ by decide)
  cases h with
  | infinity h => rcases h with h | h <;> exact hlower h (by decide)
  | nan h => exact hlower h (by decide)
  | decimal hwhole hfraction hsome _ =>
    obtain ⟨c, rest, hcs, hc⟩ := exists_start_of_decimal hwhole hfraction hsome _
    refine hlower (by rw [hcs]; rfl) fun hmem ↦ hc ?_
    exact List.mem_cons_of_mem _ (List.mem_cons_of_mem _ hmem)

/-- A name is looked for first, and no digits are one. -/
theorem readMagnitude?_eq_some_iff :
    readMagnitude? negative cs = some x ↔ WritesMagnitude negative cs x := by
  constructor
  · intro h
    simp only [readMagnitude?] at h
    split at h
    next hname => exact Option.some.inj h ▸ .infinity hname
    next =>
      split at h
      next hname => exact Option.some.inj h ▸ .nan hname
      next =>
        obtain ⟨_, _, _, _, _, hwhole, hfraction, hsome, hexponent, rfl, rfl⟩ :=
          readUnsigned?_eq_some_iff.1 h
        exact .decimal hwhole hfraction hsome hexponent
  · rintro (hname | hname | ⟨hwhole, hfraction, hsome, hexponent⟩)
    · exact if_pos hname
    · have hother : ¬(cs.map Char.toLower = "inf".toList ∨
          cs.map Char.toLower = "infinity".toList) := by
        rw [hname]
        decide
      exact (if_neg hother).trans (if_pos hname)
    · obtain ⟨c, rest, hcs, hc⟩ := exists_start_of_decimal hwhole hfraction hsome _
      have hname : ∀ name : List Char, name.head? ∈ [some 'i', some 'n'] →
          (c :: rest).map Char.toLower ≠ name := by
        rintro _ hstart rfl
        refine hc ?_
        rcases List.mem_pair.1 hstart with hstart | hstart <;>
          simp [Option.some.inj hstart]
      simp only [readMagnitude?]
      rw [hcs, if_neg (not_or.2 ⟨hname _ (by decide), hname _ (by decide)⟩),
        if_neg (hname _ (by decide)), ← hcs]
      exact readUnsigned?_eq_some_iff.2
        ⟨_, _, _, _, _, hwhole, hfraction, hsome, hexponent, rfl, rfl⟩

/-- A text is read exactly if it writes a number. -/
theorem read_eq_ok_iff : read s = .ok x ↔ WritesNumber s x := by
  have hread : read s = .ok x ↔
      readMagnitude? (readSign s.toList).1 (readSign s.toList).2 = some x := by
    rw [read]
    split
    next hfound => simp [hfound]
    next hfound => simp [hfound]
  rw [hread, readMagnitude?_eq_some_iff]
  constructor
  · intro h
    obtain ⟨sign, hsign, hs⟩ := writes_readSign s.toList
    exact ⟨sign, _, _, hsign, hs, h⟩
  · rintro ⟨sign, negative, cs, hsign, hs, h⟩
    rw [hs, readSign_append hsign h.head?_ne]
    exact h

end Numbers

@[simp]
theorem isNaN_ofDecimal (negative : Bool) (digits : Nat) (exponent : Int) :
    (ofDecimal negative digits exponent).isNaN = false := by
  unfold ofDecimal
  split
  · exact isNaN_ofMagnitude negative (Nat.zero_le _)
  · dsimp only
    split
    · exact isNaN_infinity negative
    · split
      · exact isNaN_ofMagnitude negative (Nat.zero_le _)
      · exact isNaN_ofQuotient negative _ _

/-- What is read as no number is its name. -/
theorem namesNaN_of_read {s : String} {x : Binary64} (h : (read s).toOption = some x)
    (hnan : x.isNaN = true) : NamesNaN s := by
  obtain ⟨sign, negative, name, hsign, hs, hname⟩ := read_eq_ok_iff.1 (eq_ok_of_toOption h)
  refine ⟨sign, ?_, name, hs, ?_⟩
  · cases hsign <;> simp
  · cases hname with
    | infinity => cases (isNaN_infinity negative).symm.trans hnan
    | nan hlower => exact hlower
    | decimal => cases (isNaN_ofDecimal _ _ _).symm.trans hnan

end EventCatalog.Binary64
