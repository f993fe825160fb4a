import OpenHoundOkta.Tables
import OpenHoundOkta.OpenGraph
import Mathlib.Data.List.Dedup

/-! The SQL transforms of the preprocessing step: the principals that hold an
administrator role, and the users, groups and applications that do not. The statements run
on the connection itself, so one that reads an absent table raises `CatalogException`; an
insertion from one is skipped. -/
namespace OpenHoundOkta.Transforms
open Tables OpenGraph

def table {α : Type} : Option (List α) → Except Exc (List α)
  | some rows => .ok rows
  | none => .error .catalogException

def principalsWithAdminRoles (db : Database) : Database :=
  { db with principalsWithAdminRoles := some [] }

def activeAssignees (kind : String) (principalType : PrincipalType) (rows : List RoleAssignmentRow) :
    List PrincipalRow :=
  (rows.filter (fun r => r.status = "ACTIVE" ∧ r.assignmentType = kind)).map
    (fun r => ⟨r.sourceId,principalType⟩)

def principals (db : Database) : List (Option (List PrincipalRow)) :=
  [db.privilegedUsers.map (fun rows => (rows.map (fun r => ⟨r.id,.user⟩)).dedup),
   db.userRoleAssignments.map (activeAssignees "USER" .user),
   db.groupRoleAssignments.map (activeAssignees "GROUP" .group),
   db.clientRoleAssignments.map (activeAssignees "CLIENT" .client)]

def insertPrincipalsWithAdminRoles (db : Database) : Except Exc Database := do
  let inserted := (principals db).foldl
    (fun target source => target.map (· ++ source.getD [])) db.principalsWithAdminRoles
  let rows ← table inserted
  return { db with principalsWithAdminRoles := some rows.dedup }

def nonAdmin (db : Database) (principalType : PrincipalType) (collected : List String) :
    Except Exc (List IdRow) := do
  let principals ← table db.principalsWithAdminRoles
  let admins := (principals.filter (fun p => p.principalType = principalType)).map PrincipalRow.id
  return (collected.filter (· ∉ admins)).map IdRow.mk

def nonAdminUsers (db : Database) : Except Exc Database := do
  let rows ← nonAdmin db .user (db.users.map UserRow.id)
  return { db with nonAdminUsers := some rows }

def nonAdminGroups (db : Database) : Except Exc Database := do
  let rows ← nonAdmin db .group (db.groups.map IdRow.id)
  return { db with nonAdminGroups := some rows }

def nonAdminApps (db : Database) : Except Exc Database := do
  let rows ← nonAdmin db .client (db.applications.map ApplicationRow.id)
  return { db with nonAdminApps := some rows }

def transforms (db : Database) : Except Exc Database := do
  let db := principalsWithAdminRoles db
  let db ← insertPrincipalsWithAdminRoles db
  let db ← nonAdminUsers db
  let db ← nonAdminGroups db
  nonAdminApps db

/-! What the derived tables hold, read off the collected tables. -/

def adminPrincipals (db : Database) : List PrincipalRow :=
  ((principals db).flatMap (fun source => source.getD [])).dedup

def adminIds (db : Database) (principalType : PrincipalType) : List String :=
  ((adminPrincipals db).filter (fun p => p.principalType = principalType)).map PrincipalRow.id

def remaining (db : Database) (principalType : PrincipalType) (collected : List String) :
    List IdRow :=
  (collected.filter (· ∉ adminIds db principalType)).map IdRow.mk

def preprocessed (db : Database) : Database :=
  { db with
    principalsWithAdminRoles := some (adminPrincipals db)
    nonAdminUsers := some (remaining db .user (db.users.map UserRow.id))
    nonAdminGroups := some (remaining db .group (db.groups.map IdRow.id))
    nonAdminApps := some (remaining db .client (db.applications.map ApplicationRow.id)) }

theorem insertedRows (sources : List (Option (List PrincipalRow))) (rows : List PrincipalRow) :
    sources.foldl (fun target source => target.map (· ++ source.getD [])) (some rows) =
      some (rows ++ sources.flatMap (fun source => source.getD [])) := by
  induction sources generalizing rows with
  | nil => simp
  | cons source rest ih => simp [ih]

theorem transformsRuns (db : Database) : transforms db = .ok (preprocessed db) := by
  have inserted : insertPrincipalsWithAdminRoles (principalsWithAdminRoles db) =
      .ok { db with principalsWithAdminRoles := some (adminPrincipals db) } := by
    simp only [insertPrincipalsWithAdminRoles,principalsWithAdminRoles,insertedRows]
    rfl
  simp only [transforms,inserted,bind,Except.bind]
  rfl

theorem memAdminIds {db : Database} {principalType : PrincipalType} {id : String} :
    id ∈ adminIds db principalType ↔ ⟨id,principalType⟩ ∈ adminPrincipals db := by
  simp only [adminIds,List.mem_map,List.mem_filter,decide_eq_true_eq]
  constructor
  · rintro ⟨⟨_,_⟩,⟨mem,rfl⟩,rfl⟩
    exact mem
  · exact fun mem => ⟨_,⟨mem,rfl⟩,rfl⟩

end OpenHoundOkta.Transforms
