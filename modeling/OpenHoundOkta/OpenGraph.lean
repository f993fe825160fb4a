import OpenHoundOkta.Library.PythonText

/-! Edges between nodes of this collector, as the assets emit them. An endpoint
is built with `match_by="id"` and keeps the id it was given; `__post_init__` writes its
upper case, which a missing id does not have. -/
namespace OpenHoundOkta.OpenGraph
open PythonText (TextLibrary)

inductive Exc where
  | attributeError
  | catalogException
  | indexError
  | valueError
  deriving DecidableEq, Repr

inductive EdgeKind where
  | addMember | appAdmin | contains | groupAdmin | groupMembershipAdmin
  | hasRole | hasRoleAssignment | helpdeskAdmin | manageApp | mobileAdmin
  | orgAdmin | readClientSecret | resetFactors | resetPassword
  | resourceSetContains | resourceSetContainsIndirect | resourceSetContainsMembersOf
  | scopedTo | superAdmin | identityProviderFor | inboundSso
  | samlImplements | samlTrustsIssuer | samlHasAssertionConsumerService
  | samlHasAccountResolutionRule | samlHasAccountResolutionValue | samlHasAccount
  deriving DecidableEq, Repr

def EdgeKind.text : EdgeKind → String
  | .addMember => "Okta_AddMember"
  | .appAdmin => "Okta_AppAdmin"
  | .contains => "Okta_Contains"
  | .groupAdmin => "Okta_GroupAdmin"
  | .groupMembershipAdmin => "Okta_GroupMembershipAdmin"
  | .hasRole => "Okta_HasRole"
  | .hasRoleAssignment => "Okta_HasRoleAssignment"
  | .helpdeskAdmin => "Okta_HelpDeskAdmin"
  | .manageApp => "Okta_ManageApp"
  | .mobileAdmin => "Okta_MobileAdmin"
  | .orgAdmin => "Okta_OrgAdmin"
  | .readClientSecret => "Okta_ReadClientSecret"
  | .resetFactors => "Okta_ResetFactors"
  | .resetPassword => "Okta_ResetPassword"
  | .resourceSetContains => "Okta_ResourceSetContains"
  | .resourceSetContainsIndirect => "Okta_ResourceSetContainsIndirect"
  | .resourceSetContainsMembersOf => "Okta_ResourceSetContainsMembersOf"
  | .scopedTo => "Okta_ScopedTo"
  | .superAdmin => "Okta_SuperAdmin"
  | .identityProviderFor => "Okta_IdentityProviderFor"
  | .inboundSso => "Okta_InboundSSO"
  | .samlImplements => "SAML_Implements"
  | .samlTrustsIssuer => "SAML_TrustsIssuer"
  | .samlHasAssertionConsumerService => "SAML_HasAssertionConsumerService"
  | .samlHasAccountResolutionRule => "SAML_HasAccountResolutionRule"
  | .samlHasAccountResolutionValue => "SAML_HasAccountResolutionValue"
  | .samlHasAccount => "SAML_HasAccount"

structure OktaOwnedEdgePath where
  given : String
  deriving DecidableEq, Repr

def OktaOwnedEdgePath.value (lib : TextLibrary) (path : OktaOwnedEdgePath) : String :=
  lib.upper path.given

def ownedPath : Option String → Except Exc OktaOwnedEdgePath
  | some id => .ok ⟨id⟩
  | none => .error .attributeError

structure Edge where
  kind : EdgeKind
  start : OktaOwnedEdgePath
  target : OktaOwnedEdgePath
  traversable : Bool
  deriving DecidableEq, Repr

structure WrittenEdge where
  kind : String
  start : String
  target : String
  traversable : Bool
  deriving DecidableEq, Repr

def Edge.written (lib : TextLibrary) (edge : Edge) : WrittenEdge :=
  ⟨edge.kind.text,edge.start.value lib,edge.target.value lib,edge.traversable⟩

def edgeKinds : List EdgeKind :=
  [.addMember,.appAdmin,.contains,.groupAdmin,.groupMembershipAdmin,.hasRole,.hasRoleAssignment,
    .helpdeskAdmin,.manageApp,.mobileAdmin,.orgAdmin,.readClientSecret,.resetFactors,.resetPassword,
    .resourceSetContains,.resourceSetContainsIndirect,.resourceSetContainsMembersOf,.scopedTo,
    .superAdmin,.identityProviderFor,.inboundSso,.samlImplements,.samlTrustsIssuer,
    .samlHasAssertionConsumerService,.samlHasAccountResolutionRule,.samlHasAccountResolutionValue,
    .samlHasAccount]

theorem kindOfText (kind : EdgeKind) : edgeKinds.find? (fun k => k.text = kind.text) = some kind := by
  cases kind <;> decide

theorem kindTextInjective {kind other : EdgeKind} (same : kind.text = other.text) : kind = other := by
  have found := kindOfText kind
  rw [same,kindOfText other] at found
  exact (Option.some.inj found).symm

@[simp] theorem writtenEq {lib : TextLibrary} {edge other : Edge} :
    edge.written lib = other.written lib ↔ edge.kind = other.kind ∧
      edge.start.value lib = other.start.value lib ∧ edge.target.value lib = other.target.value lib ∧
      edge.traversable = other.traversable := by
  constructor
  · intro same
    obtain ⟨kind,start,target,traversable⟩ := WrittenEdge.mk.inj same
    exact ⟨kindTextInjective kind,start,target,traversable⟩
  · rintro ⟨kind,start,target,traversable⟩
    simp [Edge.written,kind,start,target,traversable]

end OpenHoundOkta.OpenGraph
