import EventCatalog.Query.Filter
import EventCatalog.Settings.Database
import EventCatalog.Settings.Server

/-!
# Settings of the Application

The settings of the listings and of the whole application.  They are read part by part, and the
first fault is the one reported.
-/

namespace EventCatalog

/-- Settings of the listings.  All three values are read before their rules are checked. -/
def PageSettings.ofVariables (v : Variables) : Except SettingFault PageSettings := do
  let defaultPageSize ← v.readOr (Setting.unsigned Text.max64) "PAGINATION_DEFAULT_PAGE_SIZE"
    standard.defaultPageSize
  let maxPageSize ← v.readOr (Setting.unsigned Text.max64) "PAGINATION_MAX_PAGE_SIZE"
    standard.maxPageSize
  let defaultRadius ← v.readOptional Setting.number "PAGINATION_DEFAULT_LOCATION_RADIUS"
  if maxPageSize = 0 then throw (.invalid "PAGINATION_MAX_PAGE_SIZE" .zeroPageSize)
  if let some radius := defaultRadius then
    if !(radius.isFinite && Binary64.zero.lt radius) then
      throw (.invalid "PAGINATION_DEFAULT_LOCATION_RADIUS" (.unusableRadius radius))
  return ⟨defaultPageSize, maxPageSize, defaultRadius⟩

inductive Environment where
  | development
  | production
  deriving DecidableEq, Repr

namespace Environment

/-- The environment that the variables name; whatever is not production is development. -/
def ofVariables (v : Variables) : Environment :=
  if (v.textOr "APP_ENV" "development").toLower = "production" then production else development

def name : Environment → String
  | development => "Development"
  | production => "Production"

end Environment

structure ApplicationSettings where
  environment : Environment
  database : DatabaseSettings
  server : ServerSettings
  pages : PageSettings

/-- Reads all settings, those of the database first. -/
def ApplicationSettings.ofVariables (v : Variables) : Except SettingFault ApplicationSettings := do
  let database ← DatabaseSettings.ofVariables v
  let server ← ServerSettings.ofVariables v
  let pages ← PageSettings.ofVariables v
  return ⟨.ofVariables v, database, server, pages⟩

end EventCatalog
