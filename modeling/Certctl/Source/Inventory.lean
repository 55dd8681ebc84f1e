import Certctl.Source.Domain
import Certctl.Lib.Table

/-!
The certificate tables `managed_certificates` and `certificate_versions`, with the
queries and inserts of the certificate repository. The unique constraints on the
certificate name and on the version fingerprint are checked by the inserts; the
foreign keys to owners, teams and renewal policies are not part of the model.
Where a query orders by `created_at` and takes one row, a tie goes to the row
stored first, so an arbitrary row order stands for an arbitrary choice.

Source: internal/repository/postgres/certificate.go.
-/
namespace Certctl.Source

open Lib

structure Inventory where
  certs : Table ManagedCertificate.id
  versions : Table CertificateVersion.id

namespace Inventory

def empty : Inventory := ⟨.empty _, .empty _⟩

def get (inv : Inventory) (id : String) : Option ManagedCertificate := inv.certs.get? id

def create (inv : Inventory) (cert : ManagedCertificate) : Option Inventory :=
  if inv.certs.rows.any (fun row => decide (row.name = cert.name)) then none
  else (inv.certs.insert cert).map (fun certs => { inv with certs })

def createVersion (inv : Inventory) (version : CertificateVersion) : Option Inventory :=
  if inv.versions.rows.any (fun row => decide (row.fingerprintSHA256 = version.fingerprintSHA256))
  then none
  else (inv.versions.insert version).map (fun versions => { inv with versions })

/-- The update of all columns; the name constraint holds against the other rows. -/
def update (inv : Inventory) (cert : ManagedCertificate) : Option Inventory :=
  if inv.certs.rows.any (fun row => decide (row.id ≠ cert.id) && decide (row.name = cert.name))
  then none
  else (inv.certs.update cert.id (fun row => { cert with id := row.id }) (fun _ => rfl)).map
    (fun certs => { inv with certs })

def getLatestVersion (inv : Inventory) (certID : String) : Option CertificateVersion :=
  (inv.versions.rows.filter (fun v => decide (v.certificateID = certID))).maxOn?
    CertificateVersion.createdAt

/-- The version rows that join a certificate of the issuer and carry the serial. -/
def versionsBySerial (inv : Inventory) (issuerID serial : String) : List CertificateVersion :=
  inv.versions.rows.filter (fun v => decide (v.serialNumber = serial) &&
    (inv.certs.get? v.certificateID).any (fun mc => decide (mc.issuerID = issuerID)))

def getVersionBySerial (inv : Inventory) (issuerID serial : String) : Option CertificateVersion :=
  (inv.versionsBySerial issuerID serial).maxOn? CertificateVersion.createdAt

def getByIssuerAndSerial (inv : Inventory) (issuerID serial : String) :
    Option ManagedCertificate :=
  (inv.versionsBySerial issuerID serial).head?.bind (fun v => inv.certs.get? v.certificateID)

/-- Inserts only add rows. -/
structure Extends (inv inv' : Inventory) : Prop where
  certs : ∀ id cert, inv.get id = some cert → inv'.get id = some cert
  versions : ∀ v ∈ inv.versions.rows, v ∈ inv'.versions.rows

theorem Extends.refl (inv : Inventory) : inv.Extends inv :=
  ⟨fun _ _ found => found, fun _ row => row⟩

variable {inv inv' : Inventory} {version : CertificateVersion}

theorem create_spec {cert : ManagedCertificate} (created : inv.create cert = some inv') :
    inv.Extends inv' ∧ inv'.get cert.id = some cert := by
  obtain ⟨-, created⟩ := of_else created nofun
  obtain ⟨certs, inserted, rfl⟩ := Option.map_eq_some_iff.mp created
  have rows := (Table.insert_rows inserted).1
  refine ⟨⟨fun id old found => Table.get?_mono rows found, fun _ row => row⟩, ?_⟩
  exact Table.get?_of_mem (by rw [rows]; simp)

section

variable (created : inv.createVersion version = some inv')

include created

/-- A version that is stored has a new fingerprint and is appended; nothing else changes. -/
theorem createVersion_rows :
    inv'.certs = inv.certs ∧ inv'.versions.rows = inv.versions.rows ++ [version] ∧
      ∀ v ∈ inv.versions.rows, v.fingerprintSHA256 ≠ version.fingerprintSHA256 := by
  obtain ⟨unique, created⟩ := of_else created nofun
  obtain ⟨versions, inserted, rfl⟩ := Option.map_eq_some_iff.mp created
  refine ⟨rfl, (Table.insert_rows inserted).1, fun v stored same => ?_⟩
  exact unique (List.any_eq_true.mpr ⟨v, stored, decide_eq_true same⟩)

variable {image : ManagedCertificate}

omit created in
theorem update_versions (updated : inv.update image = some inv') :
    inv'.versions = inv.versions := by
  obtain ⟨-, updated⟩ := of_else updated nofun
  obtain ⟨certs, -, rfl⟩ := Option.map_eq_some_iff.mp updated
  rfl

theorem createVersion_spec : inv.Extends inv' ∧ version ∈ inv'.versions.rows := by
  obtain ⟨certs, rows, -⟩ := createVersion_rows created
  refine ⟨⟨fun id cert found => ?_, fun v row => ?_⟩, ?_⟩
  · rwa [get, certs]
  · rw [rows]
    exact List.mem_append_left _ row
  · rw [rows]
    simp

theorem get_createVersion (id : String) : inv'.get id = inv.get id := by
  rw [get, (createVersion_rows created).1, get]

end

theorem get_update (updated : inv.update image = some inv') (id : String) :
    inv'.get id = inv.get id ∨
      (image.id = id ∧ (inv.get id).isSome = true ∧ inv'.get id = some image) := by
  obtain ⟨-, updated⟩ := of_else updated nofun
  obtain ⟨certs, changed, rfl⟩ := Option.map_eq_some_iff.mp updated
  obtain ⟨row, found⟩ := (Table.update_eq changed).2
  simp only [get, Table.get?_update changed]
  by_cases same : id = image.id
  · subst same
    have keyed : row.id = image.id := Table.get?_key found
    right
    simp [found, keyed]
  · left
    rw [if_neg same]

/-- The certificate of a version found by issuer and serial belongs to the issuer. -/
theorem getVersionBySerial_issuer {issuerID serial : String}
    (found : inv.getVersionBySerial issuerID serial = some version) :
    ∃ cert, inv.get version.certificateID = some cert ∧ cert.issuerID = issuerID := by
  have member := List.maxOn?_mem found
  have joined := (Bool.and_eq_true_iff.mp (List.mem_filter.mp member).2).2
  obtain ⟨cert, owner, issued⟩ := (Option.any_eq_true ..).mp joined
  exact ⟨cert, owner, of_decide_eq_true issued⟩

theorem getLatestVersion_of_mem {v : CertificateVersion} (row : v ∈ inv.versions.rows) :
    ∃ latest, inv.getLatestVersion v.certificateID = some latest := by
  have own : v ∈ inv.versions.rows.filter (fun w =>
      decide (w.certificateID = v.certificateID)) := List.mem_filter.mpr ⟨row, by simp⟩
  have nonempty := List.ne_nil_of_mem own
  exact Option.isSome_iff_exists.mp (List.isSome_maxOn?_iff.mpr nonempty)

end Inventory

end Certctl.Source
