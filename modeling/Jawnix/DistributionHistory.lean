import Jawnix.Manifest

/-!
# Distribution history imports

`import_distribution_history` of `migration.py`: the files handed to a recipient
before the system existed become Distribution Events. A file names its recipient
and its day; the phones it lists, as the `csv` module or the workbook reader find
them, are given.
-/
namespace Jawnix

structure HistoryFile where
  name : String
  suffix : String
  relative : String
  phones : List (Option String)

structure HistoryPlatform where
  casing : Casing
  digit : Char → Bool
  /-- `str.isalnum` on one character. -/
  alnum : Char → Bool
  /-- Midnight UTC of an ISO 8601 date. -/
  dateFromisoformat : String → Option Instant
  /-- The hexadecimal SHA-256 digest of a text. -/
  sha256 : String → String

def containsText (needle text : String) : Bool :=
  text.toList.tails.any fun rest => needle.toList.isPrefixOf rest

variable (platform : HistoryPlatform) (db : Db) (agent : Customer) (deliveredAt : Instant)
  (source : String)

/-- `_history_recipient`: the one agent whose slug stands between separators of the file name. -/
def historyRecipient (filename : String) : Option Customer :=
  let normalized := "-" ++ String.join (filename.toList.map (fun c =>
    if platform.alnum c then platform.casing.lower (ofList [c]) else "-")) ++ "-"
  match db.customers.filter
    (fun agent => containsText ("-" ++ platform.casing.lower agent.slug ++ "-") normalized) with
  | [agent] => some agent
  | _ => none

def historySource (file : HistoryFile) : String :=
  clipped 80 ("history:" ++ clipped 12 (platform.sha256 file.relative) ++ ":" ++ file.name)

def historyEvent (lead : Lead) : DistributionEvent :=
  { id := db.eventSeq + 1
    leadId := lead.id
    customerId := some agent.id
    customerName := agent.name
    agencyId := agent.agencyId
    agencyName := ((agent.agencyId.bind db.agency?).map Agency.name).getD ""
    requestId := none
    phone := lead.phone
    title := lead.title
    state := lead.state
    listingProvenance := .legacy lead.sourceFlow
    deliveredAt
    source }

/-- The last distribution of a Lead is not before a delivery. -/
def distributedBy (lead : Lead) : Lead :=
  { lead with lastDistributedAt := laterDate lead.lastDistributedAt (some deliveredAt) }

def recordHistory (db : Db) (lead : Lead) : Db :=
  let e := historyEvent db agent deliveredAt source lead
  let added := if db.events.any (fun old => old.legacyKey = e.legacyKey) then db else appendEvent db e
  added.editLead lead.phone (distributedBy deliveredAt)

def importHistoryBatch (db : Db) (batch : List (Option String)) : Db :=
  let valid := batch.filterMap (fun phone => normalizePhone platform.digit (phone.getD ""))
  (db.leads.filter fun lead => lead.phone ∈ valid).foldl (recordHistory agent deliveredAt source) db

def importHistoryFile (file : HistoryFile) : Db :=
  if platform.casing.lower file.suffix ∉ [".csv", ".xlsx"] then db
  else
    match historyRecipient platform db file.name, platform.dateFromisoformat (clipped 10 file.name) with
    | some agent, some deliveredAt =>
      (chunks 10000 file.phones).foldl
        (importHistoryBatch platform agent deliveredAt (historySource platform file)) db
    | _, _ => db

/-- The files stand in the order of their paths. -/
def importDistributionHistory (files : List HistoryFile) : Db :=
  files.foldl (importHistoryFile platform) db

end Jawnix
