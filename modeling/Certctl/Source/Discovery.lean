import Certctl.Lib.Table
import Certctl.Source.Domain

/-!
Certificates that agents have found. A report stores a scan row and then upserts its entries
one by one. The columns that describe a certificate are left out. A write that fails may have
been carried out.

Source: internal/domain/discovery.go; internal/repository/postgres/discovery.go;
internal/service/discovery.go.
-/
namespace Certctl.Source.Discovery

open Lib

inductive DiscoveryStatus where
  | unmanaged
  | managed
  | dismissed

structure DiscoveredCertificate where
  id : String
  fingerprintSHA256 : String
  sourcePath : String
  agentID : String
  discoveryScanID : String
  managedCertificateID : Option String
  status : DiscoveryStatus
  firstSeenAt : Time
  lastSeenAt : Time
  dismissedAt : Option Time
  createdAt : Time
  updatedAt : Time

/-- What the unique index compares. -/
def DiscoveredCertificate.place (c : DiscoveredCertificate) : String × String × String :=
  (c.fingerprintSHA256, c.agentID, c.sourcePath)

abbrev Discovered := Table DiscoveredCertificate.place

structure DiscoveryScan where
  id : String
  agentID : String
  directories : List String
  certificatesFound : Nat
  certificatesNew : Nat
  errorsCount : Nat
  scanDurationMs : Int
  startedAt : Time
  completedAt : Option Time

structure DiscoveredCertEntry where
  fingerprintSHA256 : String
  sourcePath : String

structure DiscoveryReport where
  agentID : String
  directories : Option (List String)
  certificates : List DiscoveredCertEntry
  errors : List String
  scanDurationMs : Int

structure Store where
  scans : Table DiscoveryScan.id
  discovered : Discovered

/-- The cause of a failure, and whether the write has been carried out. -/
abbrev Fault := Option (String × Bool)

/-- The columns of an upsert that meets a row. -/
def seenAgain (now : Time) (cert row : DiscoveredCertificate) : DiscoveredCertificate :=
  { row with
    lastSeenAt := cert.lastSeenAt, discoveryScanID := cert.discoveryScanID, updatedAt := now }

/-- The table after the statement, and `is_new`; `none` is the violation of the primary key. -/
def upsert (rows : Discovered) (now : Time) (cert : DiscoveredCertificate) :
    Option (Discovered × Bool) :=
  match rows.get? cert.place with
  | some _ => some (rows.updateWhere (fun r => r.place = cert.place) (seenAgain now cert)
      (fun _ => rfl), false)
  | none =>
    if rows.rows.any (fun r => r.id = cert.id) then none
    else (rows.insert cert).map (·, true)

def createDiscovered (fault : Fault) (rows : Discovered) (now : Time)
    (cert : DiscoveredCertificate) : Discovered × Except String Bool :=
  match upsert rows now cert, fault with
  | some (rows', isNew), none => (rows', .ok isNew)
  | some (rows', _), some (cause, true) =>
    (rows', .error ("failed to upsert discovered certificate: " ++ cause))
  | _, some (cause, _) => (rows, .error ("failed to upsert discovered certificate: " ++ cause))
  | none, none => (rows, .error ("failed to upsert discovered certificate: pq: duplicate key " ++
      "value violates unique constraint \"discovered_certificates_pkey\""))

/-- The id drawn for an entry, the clock of the database, and a failure. -/
structure UpsertDraw where
  id : String
  now : Time
  fault : Fault

structure ReportDraw where
  now : Time
  scanID : String
  fault : Fault
  upserts : Nat → UpsertDraw

def newDiscovered (draw : ReportDraw) (agentID id : String) (entry : DiscoveredCertEntry) :
    DiscoveredCertificate :=
  ⟨id, entry.fingerprintSHA256, entry.sourcePath, agentID, draw.scanID, none, .unmanaged,
    draw.now, draw.now, none, draw.now, draw.now⟩

/-- The loop over the entries from the `i`th one; an upsert that fails is logged. -/
def upsertLoop (draw : ReportDraw) (agentID : String) :
    List DiscoveredCertEntry → Nat → Discovered → Nat → Discovered × Nat
  | [], _, rows, newCount => (rows, newCount)
  | entry :: rest, i, rows, newCount =>
    let drawn := draw.upserts i
    let cert := newDiscovered draw agentID drawn.id entry
    match createDiscovered drawn.fault rows drawn.now cert with
    | (rows, .ok true) => upsertLoop draw agentID rest (i + 1) rows (newCount + 1)
    | (rows, _) => upsertLoop draw agentID rest (i + 1) rows newCount

def processDiscoveryReport (draw : ReportDraw) (s : Store) (report : DiscoveryReport) :
    Store × Except String DiscoveryScan :=
  if report.agentID = "" then (s, .error "agent_id is required")
  else if report.certificates = [] ∧ report.errors = [] then
    (s, .error "report must contain at least one certificate or error")
  else
    let scan : DiscoveryScan :=
      { id := draw.scanID, agentID := report.agentID, directories := report.directories.getD []
        certificatesFound := report.certificates.length, certificatesNew := 0
        errorsCount := report.errors.length, scanDurationMs := report.scanDurationMs
        startedAt := draw.now - report.scanDurationMs * 1000000, completedAt := some draw.now }
    let stored := { s with scans := s.scans.insertOrIgnore scan }
    match draw.fault with
    | some (cause, applied) => (if applied then stored else s,
        .error ("failed to create scan record: failed to create discovery scan: " ++ cause))
    | none =>
      let (rows, newCount) := upsertLoop draw report.agentID report.certificates 0 s.discovered 0
      ({ stored with discovered := rows }, .ok { scan with certificatesNew := newCount })

end Certctl.Source.Discovery
