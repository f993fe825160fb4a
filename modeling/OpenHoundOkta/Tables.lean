import OpenHoundOkta.Library.Json

/-! The preprocessing database: the columns the lookups read. `transforms` selects
from users, groups and applications unconditionally, so a preprocessed database has
these tables; any other table may be absent. A device has no profile where the table
has no such column. -/
namespace OpenHoundOkta.Tables
open JsonValues (Json)

structure IdRow where
  id : String
  deriving DecidableEq, Repr

structure UserRow where
  id : String
  status : Option String
  profile : Option Json

structure ApplicationRow where
  id : String
  name : String
  deriving DecidableEq, Repr

structure MembershipRow where
  id : String
  groupId : String
  deriving DecidableEq, Repr

structure TypedRow where
  id : String
  type : String
  deriving DecidableEq, Repr

structure SecretRow where
  id : String
  appId : String
  deriving DecidableEq, Repr

structure DeviceRow where
  id : String
  profile : Option Json

structure ResourceRow where
  orn : String
  links : Option Json
  resourceSetId : String

structure ResourceSetRoleAssignmentRow where
  id : String
  assigneeId : String
  resourceSetId : String
  deriving DecidableEq, Repr

structure CustomRolePermissionRow where
  roleId : String
  label : String
  deriving DecidableEq, Repr

structure RoleAssignmentRow where
  sourceId : String
  status : String
  assignmentType : String
  deriving DecidableEq, Repr

inductive PrincipalType where
  | user | group | client
  deriving DecidableEq, Repr

structure PrincipalRow where
  id : String
  principalType : PrincipalType
  deriving DecidableEq, Repr

structure LinkedProfile where
  email : Option String
  msObjectIdentifier : Option String
  subjectNameId : Option String
  subjectNameQualifier : Option String
  deriving DecidableEq, Repr

structure IdentityProviderUserRow where
  id : String
  externalId : Option String
  profile : Option LinkedProfile
  idpId : String
  idpType : String
  idpProtocolType : Option String
  idpStatus : Option String
  idpUrl : Option String
  idpSubjectUserNameTemplate : Option String
  deriving DecidableEq, Repr

structure Database where
  organization : Option (List IdRow)
  users : List UserRow
  groups : List IdRow
  applications : List ApplicationRow
  groupMemberships : Option (List MembershipRow)
  apiServices : Option (List TypedRow)
  applicationSecrets : Option (List SecretRow)
  apiServiceSecrets : Option (List SecretRow)
  devices : Option (List DeviceRow)
  authorizationServers : Option (List IdRow)
  identityProviders : Option (List IdRow)
  identityProviderUsers : Option (List IdentityProviderUserRow)
  policies : Option (List TypedRow)
  resources : Option (List ResourceRow)
  resourceSetRoleAssignments : Option (List ResourceSetRoleAssignmentRow)
  customRolePermissions : Option (List CustomRolePermissionRow)
  privilegedUsers : Option (List IdRow)
  userRoleAssignments : Option (List RoleAssignmentRow)
  groupRoleAssignments : Option (List RoleAssignmentRow)
  clientRoleAssignments : Option (List RoleAssignmentRow)
  -- written by transforms
  principalsWithAdminRoles : Option (List PrincipalRow)
  nonAdminUsers : Option (List IdRow)
  nonAdminGroups : Option (List IdRow)
  nonAdminApps : Option (List IdRow)

def Database.empty : Database where
  organization := none
  users := []
  groups := []
  applications := []
  groupMemberships := none
  apiServices := none
  applicationSecrets := none
  apiServiceSecrets := none
  devices := none
  authorizationServers := none
  identityProviders := none
  identityProviderUsers := none
  policies := none
  resources := none
  resourceSetRoleAssignments := none
  customRolePermissions := none
  privilegedUsers := none
  userRoleAssignments := none
  groupRoleAssignments := none
  clientRoleAssignments := none
  principalsWithAdminRoles := none
  nonAdminUsers := none
  nonAdminGroups := none
  nonAdminApps := none

end OpenHoundOkta.Tables
