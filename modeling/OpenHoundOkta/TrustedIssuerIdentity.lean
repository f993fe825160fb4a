import OpenHoundOkta.SamlInboundRows

/-! Which trusted issuers share a node. The JSON text of tenant and entity id is read back in
one way only, so nothing but the digest could identify two of them; upper case keeps the
hexadecimal digits of a digest apart. -/
namespace OpenHoundOkta.TrustedIssuerIdentity
open PythonText JsonStrings SamlInboundRows

def identityText (lib : TextLibrary) (entityId tenantDomain : String) : String :=
  String.ofList (['['] ++ asciiQuoted (lib.casefold (strip tenantDomain)) ++ [','] ++
    asciiQuoted entityId ++ [']'])

theorem identitySeparate {lib : TextLibrary} {entityId otherEntityId tenant otherTenant : String}
    (same : identityText lib entityId tenant = identityText lib otherEntityId otherTenant) :
    lib.casefold (strip tenant) = lib.casefold (strip otherTenant) ∧ entityId = otherEntityId := by
  have texts := String.ofList_injective same
  simp only [List.append_assoc,List.singleton_append] at texts
  obtain ⟨tenants,later⟩ := quotedSeparate (List.cons.inj texts).2
  obtain ⟨entities,_⟩ := quotedSeparate (List.cons.inj later).2
  exact ⟨tenants,entities⟩

def oktaNodeId (lib : TextLibrary) (id : String) : String := lib.upper id

def hexDigits : Text := "0123456789abcdef".toList

def HexDigest (sha256 : String → String) : Prop := ∀ data, ∀ c ∈ (sha256 data).toList, c ∈ hexDigits

def UpperOnAscii (lib : TextLibrary) : Prop :=
  ∀ s : String, (∀ c ∈ s.toList, c.toNat < 128) → lib.upper s = String.ofList (s.toList.map Char.toUpper)

theorem upperHexApart {s t : Text} (digits : ∀ c ∈ s, c ∈ hexDigits) (other : ∀ c ∈ t, c ∈ hexDigits)
    (same : s.map Char.toUpper = t.map Char.toUpper) : s = t := by
  have all : hexDigits.all (fun c => c.toUpper.toLower = c) = true := by decide +kernel
  have back : ∀ c ∈ hexDigits, c.toUpper.toLower = c :=
    fun c mem => of_decide_eq_true (List.all_eq_true.mp all c mem)
  induction s generalizing t with
  | nil =>
    cases t with
    | nil => rfl
    | cons d t => cases same
  | cons c s ih =>
    cases t with
    | nil => cases same
    | cons d t =>
      obtain ⟨first,later⟩ := List.cons.inj same
      have head : c = d := by
        rw [← back c (digits c List.mem_cons_self),first,back d (other d List.mem_cons_self)]
      have rest := ih (fun x mem => digits x (List.mem_cons_of_mem _ mem))
        (fun x mem => other x (List.mem_cons_of_mem _ mem)) later
      rw [head,rest]

def issuerLead : String := "okta:saml:trusted-issuer:"

theorem issuerNodeText {lib : TextLibrary} (ascii : UpperOnAscii lib) {digest : String}
    (digits : ∀ c ∈ digest.toList, c ∈ hexDigits) : oktaNodeId lib (issuerLead ++ digest) =
      String.ofList (issuerLead.toList.map Char.toUpper ++ digest.toList.map Char.toUpper) := by
  have lead : issuerLead.toList.all (fun c => c.toNat < 128) = true := by decide +kernel
  have hex : hexDigits.all (fun c => c.toNat < 128) = true := by decide +kernel
  unfold oktaNodeId
  rw [ascii,String.toList_append,List.map_append]
  intro c mem
  rw [String.toList_append] at mem
  rcases List.mem_append.mp mem with first | last
  · exact of_decide_eq_true (List.all_eq_true.mp lead c first)
  · exact of_decide_eq_true (List.all_eq_true.mp hex c (digits c last))

theorem upperDigests {lib : TextLibrary} (ascii : UpperOnAscii lib) {digest other : String}
    (digits : ∀ c ∈ digest.toList, c ∈ hexDigits) (otherDigits : ∀ c ∈ other.toList, c ∈ hexDigits)
    (same : oktaNodeId lib (issuerLead ++ digest) = oktaNodeId lib (issuerLead ++ other)) :
    digest = other := by
  rw [issuerNodeText ascii digits,issuerNodeText ascii otherDigits] at same
  have texts := List.append_cancel_left (String.ofList_injective same)
  exact String.toList_inj.mp (upperHexApart digits otherDigits texts)

variable {lib : TextLibrary} {sha256 : String → String}

theorem issuerIdGiven {entityId tenantDomain : String} (named : strip tenantDomain ≠ "") :
    samlTrustedIssuerId lib sha256 entityId tenantDomain =
      .ok (issuerLead ++ sha256 (identityText lib entityId tenantDomain)) := by
  unfold samlTrustedIssuerId
  rw [if_neg named]
  rfl

theorem issuerIdRefused {entityId tenantDomain : String} (blank : strip tenantDomain = "") :
    samlTrustedIssuerId lib sha256 entityId tenantDomain = .error .valueError := by
  unfold samlTrustedIssuerId
  rw [if_pos blank]

variable (lib sha256) in
structure IssuerIdentity (entityId tenant otherEntityId otherTenant : String) : Prop where
  refused : strip tenant = "" → samlTrustedIssuerId lib sha256 entityId tenant = .error .valueError
  given : strip tenant ≠ "" → ∃ id, samlTrustedIssuerId lib sha256 entityId tenant = .ok id
  shared : ∀ id other, samlTrustedIssuerId lib sha256 entityId tenant = .ok id →
    samlTrustedIssuerId lib sha256 otherEntityId otherTenant = .ok other →
    (oktaNodeId lib id = oktaNodeId lib other ↔
      lib.casefold (strip tenant) = lib.casefold (strip otherTenant) ∧ entityId = otherEntityId)

theorem namedTenant {entityId tenantDomain id : String}
    (given : samlTrustedIssuerId lib sha256 entityId tenantDomain = .ok id) : strip tenantDomain ≠ "" := by
  intro blank
  rw [issuerIdRefused blank] at given
  cases given

theorem trustedIssuerIdentity (ascii : UpperOnAscii lib) (hex : HexDigest sha256)
    (entityId tenant otherEntityId otherTenant : String)
    (collisionFree : sha256 (identityText lib entityId tenant) =
        sha256 (identityText lib otherEntityId otherTenant) →
      identityText lib entityId tenant = identityText lib otherEntityId otherTenant) :
    IssuerIdentity lib sha256 entityId tenant otherEntityId otherTenant := by
  refine ⟨issuerIdRefused,fun named => ⟨_,issuerIdGiven named⟩,?_⟩
  intro id other given otherGiven
  rw [issuerIdGiven (namedTenant given)] at given
  rw [issuerIdGiven (namedTenant otherGiven)] at otherGiven
  cases given
  cases otherGiven
  constructor
  · intro same
    exact identitySeparate (collisionFree (upperDigests ascii (hex _) (hex _) same))
  · intro ⟨tenants,entities⟩
    unfold identityText
    rw [tenants,entities]

def casePairDigest (data : String) : String :=
  if data = "[\"acme.okta.com\",\"https://idp.example/A\"]" then
    "b9361bf8b5635a54c19e016c1a190b96067790109a78904c83726643d6935569"
  else if data = "[\"acme.okta.com\",\"https://idp.example/a\"]" then
    "8c8cb0b2e61a54532d0066e40eda843965aa6a2cbaf28d760ba25049b498c3a7"
  else ""

theorem entityIdCaseKept :
    IssuerIdentity asciiLibrary casePairDigest "https://idp.example/A" "Acme.okta.com"
      "https://idp.example/a" "acme.okta.com " := by
  apply trustedIssuerIdentity
  · intro s ascii
    exact String.toList_inj.mp (by rw [String.toList_ofList]; exact String.toList_map)
  · intro data c mem
    have hex : (casePairDigest data).toList.all (fun c => decide (c ∈ hexDigits)) = true := by
      unfold casePairDigest
      split_ifs <;> decide +kernel
    exact of_decide_eq_true (List.all_eq_true.mp hex c mem)
  · intro same
    have different : casePairDigest (identityText asciiLibrary "https://idp.example/A" "Acme.okta.com") ≠
        casePairDigest (identityText asciiLibrary "https://idp.example/a" "acme.okta.com ") := by
      decide +kernel
    exact absurd same different

end OpenHoundOkta.TrustedIssuerIdentity
