import EventCatalog.Proofs.Binary64.Reading
import EventCatalog.Proofs.Except
import EventCatalog.Proofs.Text.Trim
import EventCatalog.Proofs.Text.Unsigned
import EventCatalog.Settings.Application

/-!
# Settings and their variables

What settings have to do with the variables that they are read from.  A value that is set is the one
that its text writes, blanks around it aside, and a fallback stands in for unset variables only.
Settings that are not read are not read for a reason: the error names a variable that is missing,
that cannot be read or that breaks a rule.
-/

namespace EventCatalog

namespace Setting

variable {bound n : Nat} {text : String}

/-- Whether a text writes an unsigned integer within a bound. -/
def IsUnsigned (bound : Nat) (text : String) (n : Nat) : Prop :=
  Text.WritesUnsigned text n ∧ n ≤ bound

theorem unsigned_eq_ok_iff : unsigned bound text = .ok n ↔ IsUnsigned bound text n := by
  rw [unsigned, mapError_eq_ok_iff, Text.readUnsigned_eq_ok_iff, IsUnsigned]

theorem number_eq_ok_iff {x : Binary64} :
    number text = .ok x ↔ Binary64.WritesNumber text x := by
  rw [number, mapError_eq_ok_iff, Binary64.read_eq_ok_iff]

end Setting

namespace Variables

variable {α : Type} {v : Variables} {read : Setting.Reader α} {reads : String → α → Prop}
  {name : String} {fallback a : α} {fault : SettingFault}

/-- Whether a variable stands for a value: it is unset and the value is a fallback, or its text
reads as the value without the blanks around it. -/
inductive Gives (v : Variables) (reads : String → α → Prop) (name : String) (fallback : α) :
    α → Prop
  | unset (h : v.get? name = none) : Gives v reads name fallback fallback
  | set {text trimmed : String} {a : α} (h : v.get? name = some text)
      (htrim : Text.Trims text trimmed) (hread : reads trimmed a) : Gives v reads name fallback a

/-- Whether a variable that may be left blank stands for a value, or for none. -/
inductive GivesOptional (v : Variables) (reads : String → α → Prop) (name : String) :
    Option α → Prop
  | unset (h : v.get? name = none) : GivesOptional v reads name none
  | blank {text : String} (h : v.get? name = some text) (htrim : Text.Trims text "") :
      GivesOptional v reads name none
  | set {text trimmed : String} {a : α} (h : v.get? name = some text)
      (htrim : Text.Trims text trimmed) (hne : trimmed ≠ "") (hread : reads trimmed a) :
      GivesOptional v reads name (some a)

/-- Whether a variable is set to a text that reads as no value. -/
def Unreadable (v : Variables) (reads : String → α → Prop) (name : String) : Prop :=
  ∃ text trimmed, v.get? name = some text ∧ Text.Trims text trimmed ∧ ∀ a, ¬reads trimmed a

/-- Whether a variable is set to a text that is not blank and reads as no value. -/
def UnreadableOptional (v : Variables) (reads : String → α → Prop) (name : String) : Prop :=
  ∃ text trimmed, v.get? name = some text ∧ Text.Trims text trimmed ∧ trimmed ≠ "" ∧
    ∀ a, ¬reads trimmed a

theorem readText_eq_ok_iff {text : String} :
    readText read name text = .ok a ↔ read (Text.trim text) = .ok a :=
  mapError_eq_ok_iff

theorem exists_cause_of_readText {text : String} (h : readText read name text = .error fault) :
    (∃ cause, fault = .unreadable name cause) ∧ ∀ a, read (Text.trim text) ≠ .ok a := by
  rw [readText] at h
  cases hread : read (Text.trim text) with
  | ok a =>
    rw [hread] at h
    cases h
  | error cause =>
    rw [hread] at h
    cases h
    exact ⟨⟨cause, rfl⟩, nofun⟩

theorem readOr_of_unset (h : v.get? name = none) : v.readOr read name fallback = .ok fallback := by
  rw [readOr, h]

theorem readOr_of_set {text : String} (h : v.get? name = some text) :
    v.readOr read name fallback = readText read name text := by
  rw [readOr, h]

theorem readOptional_of_unset (h : v.get? name = none) : v.readOptional read name = .ok none := by
  rw [readOptional, h]

theorem readOptional_of_blank {text : String} (h : v.get? name = some text)
    (hempty : Text.trim text = "") : v.readOptional read name = .ok none := by
  rw [readOptional, h]
  exact if_pos (Text.trim_eq_empty_iff.1 hempty)

theorem readOptional_of_set {text : String} (h : v.get? name = some text)
    (hne : Text.trim text ≠ "") :
    v.readOptional read name = some <$> readText read name text := by
  rw [readOptional, h]
  exact if_neg fun hblank ↦ hne (Text.trim_eq_empty_iff.2 hblank)

section Reading

variable (hreads : ∀ text a, read text = .ok a ↔ reads text a)

include hreads

theorem readOr_eq_ok_iff :
    v.readOr read name fallback = .ok a ↔ v.Gives reads name fallback a := by
  constructor
  · intro h
    cases hget : v.get? name with
    | none =>
      rw [readOr_of_unset hget] at h
      cases h
      exact .unset hget
    | some text =>
      rw [readOr_of_set hget, readText_eq_ok_iff, hreads] at h
      exact .set hget (Text.trims_trim text) h
  · rintro (hunset | ⟨hset, htrim, hread⟩)
    · exact readOr_of_unset hunset
    · rw [readOr_of_set hset, readText_eq_ok_iff, hreads, Text.trims_iff.1 htrim]
      exact hread

theorem unreadable_of_readOr (h : v.readOr read name fallback = .error fault) :
    (∃ cause, fault = .unreadable name cause) ∧ v.Unreadable reads name := by
  cases hget : v.get? name with
  | none =>
    rw [readOr_of_unset hget] at h
    cases h
  | some text =>
    rw [readOr_of_set hget] at h
    obtain ⟨hcause, hnothing⟩ := exists_cause_of_readText h
    refine ⟨hcause, text, Text.trim text, hget, Text.trims_trim text, fun a ha ↦ ?_⟩
    exact hnothing a ((hreads _ a).2 ha)

theorem readOptional_eq_ok_iff {a : Option α} :
    v.readOptional read name = .ok a ↔ v.GivesOptional reads name a := by
  constructor
  · intro h
    cases hget : v.get? name with
    | none =>
      rw [readOptional_of_unset hget] at h
      cases h
      exact .unset hget
    | some text =>
      by_cases hempty : Text.trim text = ""
      · rw [readOptional_of_blank hget hempty] at h
        cases h
        exact .blank hget (Text.trims_iff.2 hempty)
      · rw [readOptional_of_set hget hempty, map_eq_ok_iff] at h
        obtain ⟨a, hread, rfl⟩ := h
        rw [readText_eq_ok_iff, hreads] at hread
        exact .set hget (Text.trims_trim text) hempty hread
  · rintro (hunset | ⟨hset, htrim⟩ | ⟨hset, htrim, hne, hread⟩)
    · exact readOptional_of_unset hunset
    · exact readOptional_of_blank hset (Text.trims_iff.1 htrim)
    · obtain rfl := Text.trims_iff.1 htrim
      rw [readOptional_of_set hset hne, map_eq_ok_iff]
      exact ⟨_, readText_eq_ok_iff.2 ((hreads _ _).2 hread), rfl⟩

theorem unreadable_of_readOptional (h : v.readOptional read name = .error fault) :
    (∃ cause, fault = .unreadable name cause) ∧ v.UnreadableOptional reads name := by
  cases hget : v.get? name with
  | none =>
    rw [readOptional_of_unset hget] at h
    cases h
  | some text =>
    by_cases hempty : Text.trim text = ""
    · rw [readOptional_of_blank hget hempty] at h
      cases h
    · rw [readOptional_of_set hget hempty, map_eq_error_iff] at h
      obtain ⟨hcause, hnothing⟩ := exists_cause_of_readText h
      refine ⟨hcause, text, Text.trim text, hget, Text.trims_trim text, hempty, fun a ha ↦ ?_⟩
      exact hnothing a ((hreads _ a).2 ha)

end Reading

end Variables

namespace SettingFault

/-- Whether the text of a fault names a variable. -/
def Names (fault : SettingFault) (name : String) : Prop :=
  name.toList <:+: fault.message.toList

-- The parts around the name stay variables here: comparing the texts of messages letter by letter
-- takes long.
theorem infix_append_append (front name middle back : String) :
    name.toList <:+: (front ++ name ++ middle ++ back).toList := by
  simp only [String.toList_append]
  exact ⟨front.toList, middle.toList ++ back.toList, (List.append_assoc ..).symm⟩

theorem infix_append (front name back : String) :
    name.toList <:+: (front ++ name ++ back).toList := by
  have h := infix_append_append front name back ""
  rwa [String.append_empty] at h

theorem names_missing (name : String) : (missing name).Names name :=
  infix_append _ name _

theorem names_unreadable (name : String) (cause : ValueFault) :
    (unreadable name cause).Names name :=
  infix_append_append _ name _ _

theorem names_invalid (name : String) (cause : Violation) : (invalid name cause).Names name :=
  infix_append_append _ name _ _

end SettingFault

open Setting

namespace Variables

variable {v : Variables} {bound fallback n : Nat} {name : String} {fault : SettingFault}

theorem readUnsigned_eq_ok_iff :
    v.readOr (unsigned bound) name fallback = .ok n ↔
      v.Gives (IsUnsigned bound) name fallback n :=
  readOr_eq_ok_iff fun _ _ ↦ unsigned_eq_ok_iff

theorem readNumber_eq_ok_iff {x : Option Binary64} :
    v.readOptional number name = .ok x ↔ v.GivesOptional Binary64.WritesNumber name x :=
  readOptional_eq_ok_iff fun _ _ ↦ number_eq_ok_iff

/-- An integer that cannot be read is reported under the name of its variable. -/
theorem exists_name_of_readUnsigned {isAtFault : String → Prop}
    (h : v.readOr (unsigned bound) name fallback = .error fault)
    (hname : v.Unreadable (IsUnsigned bound) name → isAtFault name) :
    ∃ name, fault.Names name ∧ isAtFault name := by
  obtain ⟨⟨cause, rfl⟩, hfault⟩ := unreadable_of_readOr (fun _ _ ↦ unsigned_eq_ok_iff) h
  exact ⟨name, SettingFault.names_unreadable name cause, hname hfault⟩

theorem exists_name_of_readNumber {isAtFault : String → Prop}
    (h : v.readOptional number name = .error fault)
    (hname : v.UnreadableOptional Binary64.WritesNumber name → isAtFault name) :
    ∃ name, fault.Names name ∧ isAtFault name := by
  obtain ⟨⟨cause, rfl⟩, hfault⟩ := unreadable_of_readOptional (fun _ _ ↦ number_eq_ok_iff) h
  exact ⟨name, SettingFault.names_unreadable name cause, hname hfault⟩

end Variables

namespace PageSettings

/-- Whether settings of the listings are what the variables say. -/
structure IsReadFrom (v : Variables) (s : PageSettings) : Prop where
  defaultPageSize :
    v.Gives (IsUnsigned Text.max64) "PAGINATION_DEFAULT_PAGE_SIZE" 20 s.defaultPageSize
  maxPageSize : v.Gives (IsUnsigned Text.max64) "PAGINATION_MAX_PAGE_SIZE" 100 s.maxPageSize
  defaultRadius :
    v.GivesOptional Binary64.WritesNumber "PAGINATION_DEFAULT_LOCATION_RADIUS" s.defaultRadius
  one_le_maxPageSize : 1 ≤ s.maxPageSize
  isUsableRadius : ∀ r ∈ s.defaultRadius, r.isFinite = true ∧ Binary64.zero.lt r = true

/-- Whether a variable keeps the settings of the listings from being read. -/
inductive IsAtFault (v : Variables) : String → Prop
  | unreadable {name : String}
      (hname : name ∈ ["PAGINATION_DEFAULT_PAGE_SIZE", "PAGINATION_MAX_PAGE_SIZE"])
      (h : v.Unreadable (IsUnsigned Text.max64) name) : IsAtFault v name
  | unreadableRadius
      (h : v.UnreadableOptional Binary64.WritesNumber "PAGINATION_DEFAULT_LOCATION_RADIUS") :
      IsAtFault v "PAGINATION_DEFAULT_LOCATION_RADIUS"
  | zeroPageSize (h : v.Gives (IsUnsigned Text.max64) "PAGINATION_MAX_PAGE_SIZE" 100 0) :
      IsAtFault v "PAGINATION_MAX_PAGE_SIZE"
  | unusableRadius {r : Binary64}
      (h : v.GivesOptional Binary64.WritesNumber "PAGINATION_DEFAULT_LOCATION_RADIUS" (some r))
      (hunusable : ¬(r.isFinite = true ∧ Binary64.zero.lt r = true)) :
      IsAtFault v "PAGINATION_DEFAULT_LOCATION_RADIUS"

theorem not_isUsable_iff {r : Binary64} :
    (!(r.isFinite && Binary64.zero.lt r)) = true ↔
      ¬(r.isFinite = true ∧ Binary64.zero.lt r = true) := by
  rw [Bool.not_eq_true', ← Bool.not_eq_true, Bool.and_eq_true]

theorem ofVariables_eq_ok_iff {v : Variables} {s : PageSettings} :
    ofVariables v = .ok s ↔ s.IsReadFrom v := by
  rw [ofVariables]
  simp only [bind_eq_ok_iff, Variables.readUnsigned_eq_ok_iff, Variables.readNumber_eq_ok_iff]
  constructor
  · rintro ⟨size, hsize, most, hmost, radius, hradius, h⟩
    split at h
    next => cases h
    next hpositive =>
      split at h
      next r =>
        split at h
        next => cases h
        next husable =>
          cases h
          refine ⟨hsize, hmost, hradius, Nat.one_le_iff_ne_zero.2 hpositive, ?_⟩
          rintro _ ⟨⟩
          exact not_not.1 fun hunusable ↦ husable (not_isUsable_iff.2 hunusable)
      next hnone =>
        cases h
        refine ⟨hsize, hmost, hradius, Nat.one_le_iff_ne_zero.2 hpositive, fun r hr ↦ ?_⟩
        exact absurd hr (hnone r)
  · intro h
    refine ⟨_, h.defaultPageSize, _, h.maxPageSize, _, h.defaultRadius, ?_⟩
    rw [if_neg (Nat.one_le_iff_ne_zero.1 h.one_le_maxPageSize)]
    split
    next r hradius =>
      have husable := h.isUsableRadius r hradius
      exact if_neg fun hunusable ↦ not_isUsable_iff.1 hunusable husable
    next => rfl

theorem exists_isAtFault {v : Variables} {fault : SettingFault}
    (h : ofVariables v = .error fault) : ∃ name, fault.Names name ∧ IsAtFault v name := by
  rw [ofVariables] at h
  simp only [bind_eq_error_iff] at h
  obtain h | ⟨size, -, h | ⟨most, hmost, h | ⟨radius, hradius, h⟩⟩⟩ := h
  · exact Variables.exists_name_of_readUnsigned h (.unreadable (by simp))
  · exact Variables.exists_name_of_readUnsigned h (.unreadable (by simp))
  · exact Variables.exists_name_of_readNumber h .unreadableRadius
  · rw [Variables.readUnsigned_eq_ok_iff] at hmost
    rw [Variables.readNumber_eq_ok_iff] at hradius
    split at h
    next hzero =>
      cases h
      subst hzero
      exact ⟨_, SettingFault.names_invalid _ _, .zeroPageSize hmost⟩
    next =>
      split at h
      next r =>
        split at h
        next hunusable =>
          cases h
          exact ⟨_, SettingFault.names_invalid _ _,
            .unusableRadius hradius (not_isUsable_iff.1 hunusable)⟩
        next => cases h
      next => cases h

end PageSettings

namespace ServerSettings

/-- Whether settings of the server are what the variables say. -/
structure IsReadFrom (v : Variables) (s : ServerSettings) : Prop where
  host : s.host = (v.get? "HOST").getD "0.0.0.0"
  port : v.Gives (IsUnsigned Text.max16) "PORT" 8080 s.port
  requestTimeout : v.Gives (IsUnsigned Text.max64) "REQUEST_TIMEOUT_SECS" 30 s.requestTimeout
  shutdownTimeout : v.Gives (IsUnsigned Text.max64) "SHUTDOWN_TIMEOUT_SECS" 30 s.shutdownTimeout

/-- Whether a variable keeps the settings of the server from being read. -/
inductive IsAtFault (v : Variables) : String → Prop
  | port (h : v.Unreadable (IsUnsigned Text.max16) "PORT") : IsAtFault v "PORT"
  | timeout {name : String} (hname : name ∈ ["REQUEST_TIMEOUT_SECS", "SHUTDOWN_TIMEOUT_SECS"])
      (h : v.Unreadable (IsUnsigned Text.max64) name) : IsAtFault v name

theorem ofVariables_eq_ok_iff {v : Variables} {s : ServerSettings} :
    ofVariables v = .ok s ↔ s.IsReadFrom v := by
  rw [ofVariables]
  simp only [bind_eq_ok_iff, Variables.readUnsigned_eq_ok_iff]
  constructor
  · rintro ⟨port, hport, requestTimeout, hrequest, shutdownTimeout, hshutdown, h⟩
    obtain rfl := Except.ok.inj h
    exact ⟨rfl, hport, hrequest, hshutdown⟩
  · intro h
    obtain ⟨host, port, requestTimeout, shutdownTimeout⟩ := s
    obtain rfl := h.host
    exact ⟨port, h.port, requestTimeout, h.requestTimeout, shutdownTimeout, h.shutdownTimeout, rfl⟩

theorem exists_isAtFault {v : Variables} {fault : SettingFault}
    (h : ofVariables v = .error fault) : ∃ name, fault.Names name ∧ IsAtFault v name := by
  rw [ofVariables] at h
  simp only [bind_eq_error_iff] at h
  obtain h | ⟨port, -, h | ⟨requestTimeout, -, h | ⟨shutdownTimeout, -, h⟩⟩⟩ := h
  · exact Variables.exists_name_of_readUnsigned h .port
  · exact Variables.exists_name_of_readUnsigned h (.timeout (by simp))
  · exact Variables.exists_name_of_readUnsigned h (.timeout (by simp))
  · cases h

end ServerSettings

namespace DatabaseSettings

/-- Whether settings of the database are what the variables say. -/
structure IsReadFrom (v : Variables) (s : DatabaseSettings) : Prop where
  url : (v.get? "MONGODB_URL").or (v.get? "MONGO_URL") = some s.url
  database :
    s.database = ((v.get? "MONGODB_DATABASE").or (v.get? "MONGO_DATABASE")).getD "events"
  applicationName : s.applicationName = v.get? "MONGODB_APP_NAME"
  maxPoolSize : v.Gives (IsUnsigned Text.max32) "MONGODB_MAX_POOL_SIZE" 100 s.maxPoolSize
  minPoolSize : v.Gives (IsUnsigned Text.max32) "MONGODB_MIN_POOL_SIZE" 5 s.minPoolSize
  minPoolSize_le : s.minPoolSize ≤ s.maxPoolSize
  connectTimeout :
    v.Gives (IsUnsigned Text.max64) "MONGODB_CONNECT_TIMEOUT_SECS" 10 s.connectTimeout
  serverSelectionTimeout :
    v.Gives (IsUnsigned Text.max64) "MONGODB_SERVER_SELECTION_TIMEOUT_SECS" 30
      s.serverSelectionTimeout
  connectRetries : v.Gives (IsUnsigned Text.max32) "MONGODB_CONNECT_RETRIES" 3 s.connectRetries

/-- Whether a variable keeps the settings of the database from being read. -/
inductive IsAtFault (v : Variables) : String → Prop
  | missing (h : v.get? "MONGODB_URL" = none) (h' : v.get? "MONGO_URL" = none) :
      IsAtFault v "MONGODB_URL"
  | unreadable {name : String}
      (hname : name ∈ ["MONGODB_MAX_POOL_SIZE", "MONGODB_MIN_POOL_SIZE", "MONGODB_CONNECT_RETRIES"])
      (h : v.Unreadable (IsUnsigned Text.max32) name) : IsAtFault v name
  | unreadableTimeout {name : String}
      (hname : name ∈ ["MONGODB_CONNECT_TIMEOUT_SECS", "MONGODB_SERVER_SELECTION_TIMEOUT_SECS"])
      (h : v.Unreadable (IsUnsigned Text.max64) name) : IsAtFault v name
  | poolBounds {most least : Nat}
      (hmost : v.Gives (IsUnsigned Text.max32) "MONGODB_MAX_POOL_SIZE" 100 most)
      (hleast : v.Gives (IsUnsigned Text.max32) "MONGODB_MIN_POOL_SIZE" 5 least)
      (hlt : most < least) : IsAtFault v "MONGODB_MIN_POOL_SIZE"

theorem database_eq (v : Variables) :
    (v.get? "MONGODB_DATABASE").getD (v.textOr "MONGO_DATABASE" standard.database) =
      ((v.get? "MONGODB_DATABASE").or (v.get? "MONGO_DATABASE")).getD "events" := by
  cases v.get? "MONGODB_DATABASE" <;> rfl

theorem isReadFrom_of_ofVariables {v : Variables} {s : DatabaseSettings}
    (h : ofVariables v = .ok s) : s.IsReadFrom v := by
  rw [ofVariables] at h
  split at h
  next url hurl =>
    simp only [bind_eq_ok_iff, Variables.readUnsigned_eq_ok_iff] at h
    obtain ⟨most, hmost, least, hleast, h⟩ := h
    split at h
    next => cases h
    next hle =>
      simp only [bind_eq_ok_iff, Variables.readUnsigned_eq_ok_iff] at h
      obtain ⟨connect, hconnect, selection, hselection, retries, hretries, h⟩ := h
      cases h
      exact ⟨hurl, database_eq v, rfl, hmost, hleast, Nat.le_of_not_lt hle, hconnect, hselection,
        hretries⟩
  next => cases h

theorem ofVariables_of_isReadFrom {v : Variables} {s : DatabaseSettings} (h : s.IsReadFrom v) :
    ofVariables v = .ok s := by
  rw [ofVariables, h.url]
  simp only [bind_eq_ok_iff, Variables.readUnsigned_eq_ok_iff]
  refine ⟨_, h.maxPoolSize, _, h.minPoolSize, ?_⟩
  rw [if_neg (Nat.not_lt.2 h.minPoolSize_le)]
  simp only [bind_eq_ok_iff, Variables.readUnsigned_eq_ok_iff]
  refine ⟨_, h.connectTimeout, _, h.serverSelectionTimeout, _, h.connectRetries, ?_⟩
  rw [database_eq, ← h.database, ← h.applicationName]
  rfl

theorem ofVariables_eq_ok_iff {v : Variables} {s : DatabaseSettings} :
    ofVariables v = .ok s ↔ s.IsReadFrom v :=
  ⟨isReadFrom_of_ofVariables, ofVariables_of_isReadFrom⟩

theorem exists_isAtFault {v : Variables} {fault : SettingFault}
    (h : ofVariables v = .error fault) : ∃ name, fault.Names name ∧ IsAtFault v name := by
  rw [ofVariables] at h
  split at h
  next url hurl =>
    simp only [bind_eq_error_iff] at h
    obtain h | ⟨most, hmost, h | ⟨least, hleast, h⟩⟩ := h
    · exact Variables.exists_name_of_readUnsigned h (.unreadable (by simp))
    · exact Variables.exists_name_of_readUnsigned h (.unreadable (by simp))
    · rw [Variables.readUnsigned_eq_ok_iff] at hmost hleast
      split at h
      next hlt =>
        cases h
        exact ⟨_, SettingFault.names_invalid _ _, .poolBounds hmost hleast hlt⟩
      next =>
        simp only [bind_eq_error_iff] at h
        obtain h | ⟨connect, -, h | ⟨selection, -, h | ⟨retries, -, h⟩⟩⟩ := h
        · exact Variables.exists_name_of_readUnsigned h (.unreadableTimeout (by simp))
        · exact Variables.exists_name_of_readUnsigned h (.unreadableTimeout (by simp))
        · exact Variables.exists_name_of_readUnsigned h (.unreadable (by simp))
        · cases h
  next hnone =>
    have hmissing : (v.get? "MONGODB_URL").or (v.get? "MONGO_URL") = none := by
      rw [Option.eq_none_iff_forall_ne_some]
      exact hnone
    rw [Option.or_eq_none_iff] at hmissing
    cases h
    have hfirst : "MONGODB_URL".toList <:+: "MONGODB_URL or MONGO_URL".toList :=
      ⟨[], " or MONGO_URL".toList, rfl⟩
    exact ⟨"MONGODB_URL", hfirst.trans (SettingFault.names_missing _),
      .missing hmissing.1 hmissing.2⟩

end DatabaseSettings

/-- Whether settings are read as asked: they come out exactly if they are what the variables say,
and an error names a variable that is at fault. -/
structure Variables.Faithful {α : Type} (outcome : Except SettingFault α) (isRead : α → Prop)
    (isAtFault : String → Prop) : Prop where
  ok_iff : ∀ settings, outcome = .ok settings ↔ isRead settings
  error : ∀ fault, outcome = .error fault → ∃ name, fault.Names name ∧ isAtFault name

namespace Variables

/-- Settings are never silently altered.  The settings of the listings, of the server and of the
database come out exactly if each value is the one that its variable says, with a fallback for unset
variables only, and their rules hold; otherwise the error names a variable that is missing, that
cannot be read or that takes part in a broken rule. -/
theorem settings_faithful (v : Variables) :
    Faithful (PageSettings.ofVariables v) (PageSettings.IsReadFrom v)
        (PageSettings.IsAtFault v) ∧
      Faithful (ServerSettings.ofVariables v) (ServerSettings.IsReadFrom v)
        (ServerSettings.IsAtFault v) ∧
      Faithful (DatabaseSettings.ofVariables v) (DatabaseSettings.IsReadFrom v)
        (DatabaseSettings.IsAtFault v) := by
  refine ⟨⟨?_, ?_⟩, ⟨?_, ?_⟩, ⟨?_, ?_⟩⟩
  · exact fun s ↦ PageSettings.ofVariables_eq_ok_iff
  · exact fun fault ↦ PageSettings.exists_isAtFault
  · exact fun s ↦ ServerSettings.ofVariables_eq_ok_iff
  · exact fun fault ↦ ServerSettings.exists_isAtFault
  · exact fun s ↦ DatabaseSettings.ofVariables_eq_ok_iff
  · exact fun fault ↦ DatabaseSettings.exists_isAtFault

/-- A port is read with its sign and without the blanks around it.  One of more than 16 bits is
reported. -/
theorem settings_faithful_port :
    let port : Variables := [("PORT", Text.toBytes " +80 ")]
    let excess : Variables := [("PORT", Text.toBytes "65536")]
    ServerSettings.ofVariables port = .ok ⟨"0.0.0.0", 80, 30, 30⟩ ∧
      ServerSettings.ofVariables excess = .error (.unreadable "PORT" (.integer .tooLarge)) ∧
      ∃ name, (SettingFault.unreadable "PORT" (.integer .tooLarge)).Names name ∧
        ServerSettings.IsAtFault excess name := by
  intro port excess
  have hport : port.get? "PORT" = some " +80 " := by decide +kernel
  have htrims : Text.Trims " +80 " "+80" := by
    rw [Text.trims_iff]
    decide
  have hwrites : Text.WritesUnsigned "+80" 80 :=
    ⟨['+'], by simp, [8, 0], by simp, by simp, rfl, rfl⟩
  have hread : ServerSettings.IsReadFrom port ⟨"0.0.0.0", 80, 30, 30⟩ :=
    ⟨rfl, .set hport htrims ⟨hwrites, by decide⟩, .unset rfl, .unset rfl⟩
  have hexcess : ServerSettings.ofVariables excess =
      .error (.unreadable "PORT" (.integer .tooLarge)) := by decide +kernel
  obtain ⟨-, hok, -⟩ := settings_faithful port
  obtain ⟨-, herror, -⟩ := settings_faithful excess
  exact ⟨(hok.ok_iff _).2 hread, hexcess, herror.error _ hexcess⟩

end Variables

end EventCatalog
