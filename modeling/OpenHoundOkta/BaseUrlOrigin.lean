import OpenHoundOkta.Library.ReadUrls

/-! The rule for a usable base URL, and the URL of a request, which is the base URL as it was
given followed by a path. -/
namespace OpenHoundOkta.BaseUrlOrigin
open PythonText Urls

inductive BaseUrlError where
  | unavailable
  | withoutSchemeOrHostname
  | notHttps
  | userInfo
  | beyondOrigin
  deriving DecidableEq, Repr

def BaseUrlError.message : BaseUrlError → String
  | .unavailable => "Okta base URL is unavailable"
  | .withoutSchemeOrHostname => "Okta base URL must include a URL scheme and hostname"
  | .notHttps => "Okta base URL must use the https scheme"
  | .userInfo => "Okta base URL must not contain user info"
  | .beyondOrigin => "Okta base URL must be an origin without a path, query or fragment"

def stripped (s : Text) : Text := rstrip isSpace (lstrip isSpace s)

-- a Python value that is true
def given (part : Option Text) : Bool := part.any (· ≠ [])

def checkedHostname (lib : TextLibrary) (parsed : ParseResult) : Except BaseUrlError Text :=
  match hostname lib parsed.split with
  | none => .error .withoutSchemeOrHostname
  | some host =>
    if !portReadable parsed.netloc ∨ parsed.scheme = [] ∨ host = [] then .error .withoutSchemeOrHostname
    else if lib.casefold (String.ofList parsed.scheme) ≠ "https" then .error .notHttps
    else if given (username parsed.split) ∨ given (password parsed.split) then .error .userInfo
    else if parsed.path ≠ [] ∨ parsed.params ≠ [] ∨ parsed.query ≠ [] ∨ parsed.fragment ≠ [] then
      .error .beyondOrigin
    else .ok host

def baseUrlHostname (lib : TextLibrary) (baseUrl : Text) : Except BaseUrlError Text :=
  if stripped baseUrl = [] then .error .unavailable
  else
    match urlparse lib (stripped baseUrl) with
    | none => .error .withoutSchemeOrHostname
    | some parsed => checkedHostname lib parsed

structure Requests (lib : TextLibrary) (host path : Text) (parsed : ParseResult) : Prop where
  scheme : parsed.scheme = "https".toList
  host : hostname lib parsed.split = some host
  path : parsed.path = path
  query : parsed.query = []
  fragment : parsed.fragment = []
  userinfo : userinfo parsed.netloc = none

def Reaches (lib : TextLibrary) (host path url : Text) : Prop :=
  ∃ parsed, urlparse lib url = some parsed ∧ Requests lib host path parsed

structure Origin (lib : TextLibrary) (url host scheme netloc rest : Text) : Prop where
  named : SchemeText scheme
  https : lib.casefold (String.ofList (scheme.map Char.toLower)) = "https"
  netlocText : NetlocText netloc
  form : cleaned url = written scheme netloc rest
  bare : rest = [] ∨ rest = ['?'] ∨ rest = ['#'] ∨ rest = ['?','#']
  admitted : netlocAdmitted lib netloc = true
  port : portReadable netloc = true
  host : hostname lib (splitRest (scheme.map Char.toLower) netloc []) = some host

theorem bareRest {rest : Text} (delimited : ∀ c ∈ rest.head?, c = '/' ∨ c = '?' ∨ c = '#')
    (noPath : (cut '?' (cut '#' rest).1).1 = []) (noQuery : ((cut '?' (cut '#' rest).1).2).getD [] = [])
    (noFragment : ((cut '#' rest).2).getD [] = []) :
    rest = [] ∨ rest = ['?'] ∨ rest = ['#'] ∨ rest = ['?','#'] := by
  have before : (cut '#' rest).1 = [] ∨ (cut '#' rest).1 = ['?'] := by
    cases found : cut '?' (cut '#' rest).1 with
    | mk path query =>
      rw [found] at noPath noQuery
      cases query with
      | none =>
        left
        rw [← (cutNone found).1]
        exact noPath
      | some query =>
        right
        have whole := (cutSome found).1
        rw [whole,show path = [] from noPath,show query = [] from noQuery]
        rfl
  cases found : cut '#' rest with
  | mk kept fragment =>
    rw [found] at before noFragment
    cases fragment with
    | none =>
      obtain ⟨rfl,-⟩ := cutNone found
      rcases before with nothing | question
      · exact .inl nothing
      · exact .inr (.inl question)
    | some fragment =>
      have whole := (cutSome found).1
      rw [show fragment = [] from noFragment] at whole
      rcases before with nothing | question
      · exact .inr (.inr (.inl (by rw [whole,show kept = [] from nothing]; rfl)))
      · exact .inr (.inr (.inr (by rw [whole,show kept = ['?'] from question]; rfl)))

theorem checkedOk {lib : TextLibrary} {parsed : ParseResult} {host : Text}
    (ok : checkedHostname lib parsed = .ok host) :
    hostname lib parsed.split = some host ∧ portReadable parsed.netloc = true ∧ parsed.scheme ≠ [] ∧
      lib.casefold (String.ofList parsed.scheme) = "https" ∧ parsed.path = [] ∧ parsed.query = [] ∧
      parsed.fragment = [] := by
  unfold checkedHostname at ok
  cases named : hostname lib parsed.split with
  | none =>
    rw [named] at ok
    cases ok
  | some read =>
    rw [named] at ok
    by_cases missing : !portReadable parsed.netloc ∨ parsed.scheme = [] ∨ read = []
    · simp only [if_pos missing] at ok
      cases ok
    by_cases other : lib.casefold (String.ofList parsed.scheme) ≠ "https"
    · simp only [if_neg missing,if_pos other] at ok
      cases ok
    by_cases user : given (username parsed.split) ∨ given (password parsed.split)
    · simp only [if_neg missing,if_neg other,if_pos user] at ok
      cases ok
    by_cases beyond : parsed.path ≠ [] ∨ parsed.params ≠ [] ∨ parsed.query ≠ [] ∨ parsed.fragment ≠ []
    · simp only [if_neg missing,if_neg other,if_neg user,if_pos beyond] at ok
      cases ok
    simp only [if_neg missing,if_neg other,if_neg user,if_neg beyond] at ok
    cases ok
    obtain ⟨port,scheme,-⟩ : portReadable parsed.netloc = true ∧ parsed.scheme ≠ [] ∧ host ≠ [] := by
      simpa using missing
    obtain ⟨path,-,query,fragment⟩ : parsed.path = [] ∧ parsed.params = [] ∧ parsed.query = [] ∧
        parsed.fragment = [] := by
      simpa using beyond
    exact ⟨rfl,port,scheme,not_not.mp other,path,query,fragment⟩

theorem netlocNamed {lib : TextLibrary} {parts : SplitResult} {host : Text}
    (named : hostname lib parts = some host) : parts.netloc ≠ [] := by
  intro empty
  have shown := (hostnameGiven named).1
  rw [empty] at shown
  exact shown rfl

theorem pathKept {scheme netloc rest : Text} (after : AfterNetloc rest)
    (empty : (splitParams (splitRest scheme netloc rest).path).1 = []) :
    (splitRest scheme netloc rest).path = [] := by
  cases path : (splitRest scheme netloc rest).path with
  | nil => rfl
  | cons c tail =>
    have initial : (splitRest scheme netloc rest).path <+: rest := (cutPrefix _ _).trans (cutPrefix _ _)
    rw [path] at initial empty
    obtain ⟨behind,rfl⟩ := initial
    have noSemicolon : c ≠ ';' := by
      rintro rfl
      rcases after.delimited ';' rfl with slash | question | hash
      · cases slash
      · cases question
      · cases hash
    obtain ⟨kept,head⟩ := splitParamsHead noSemicolon tail
    rw [head] at empty
    cases empty

theorem acceptedOrigin {lib : TextLibrary} {s host : Text} (accepted : baseUrlHostname lib s = .ok host) :
    ∃ scheme netloc rest, Origin lib (stripped s) host scheme netloc rest := by
  unfold baseUrlHostname at accepted
  split at accepted
  · cases accepted
  cases parse : urlparse lib (stripped s) with
  | none =>
    rw [parse] at accepted
    cases accepted
  | some parsed =>
    rw [parse] at accepted
    obtain ⟨named,port,scheme,https,path,query,fragment⟩ := checkedOk accepted
    obtain ⟨parts,split,sameScheme,sameNetloc,sameQuery,sameFragment,samePath⟩ := urlparseRead parse
    have netloc : parts.netloc ≠ [] := by
      rw [← sameNetloc]
      exact netlocNamed named
    rw [sameScheme] at scheme https
    obtain ⟨text,rest,plain,netlocText,after,form,admitted,whole⟩ := urlsplitRead split scheme netloc
    have noPath : parts.path = [] := by
      rw [samePath] at path
      split at path
      · rw [whole] at path ⊢
        exact pathKept after path
      · exact path
    refine ⟨text,parts.netloc,rest,plain,?_,netlocText,form,?_,admitted,?_,?_⟩
    · rw [whole] at https
      exact https
    · rw [whole] at noPath
      rw [sameQuery,whole] at query
      rw [sameFragment,whole] at fragment
      exact bareRest after.delimited noPath query fragment
    · rw [← sameNetloc]
      exact port
    · rw [← named]
      exact hostnameOfNetloc sameNetloc.symm

end OpenHoundOkta.BaseUrlOrigin
