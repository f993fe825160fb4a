import OpenHoundOkta.Library.PythonText
import Mathlib.Tactic.IntervalCases

/-! `urllib.parse` of CPython 3.13: `urlsplit`, `urlunsplit`, `urlparse`, `quote` with no
safe characters, `unquote` and `parse_qs`. A result is missing where the function raises `ValueError`. `queryValue` is
`parse_qs(query).get(key, [None])[0]`. -/
namespace OpenHoundOkta.Urls
open PythonText

structure SplitResult where
  scheme : Text
  netloc : Text
  path : Text
  query : Text
  fragment : Text
  deriving DecidableEq, Repr

structure ParseResult where
  scheme : Text
  netloc : Text
  path : Text
  params : Text
  query : Text
  fragment : Text
  deriving DecidableEq, Repr

def isAscii (c : Char) : Bool := c.toNat < 0x80
def isAsciiLetter (c : Char) : Bool := isAscii c && c.isAlpha
def isHexDigit (c : Char) : Bool := c.isDigit || ('a' ≤ c && c ≤ 'f') || ('A' ≤ c && c ≤ 'F')

def isC0OrSpace (c : Char) : Bool := c.toNat ≤ 0x20
def isUnsafe (c : Char) : Bool := c == '\t' || c == '\r' || c == '\n'
def isSchemeChar (c : Char) : Bool :=
  isAscii c && (c.isAlphanum || c == '+' || c == '-' || c == '.')

def splitScheme (url : Text) : Text × Text :=
  match url,cut ':' url with
  | c::_,(before,some after) =>
    if before ≠ [] ∧ isAsciiLetter c ∧ before.all isSchemeChar then (before.map Char.toLower,after)
    else ([],url)
  | _,_ => ([],url)

def splitNetloc (url : Text) : Text × Text :=
  match url with
  | '/' :: '/' :: rest => rest.span (fun c => c != '/' && c != '?' && c != '#')
  | _ => ([],url)

def hostAndPort (netloc : Text) : Text := afterLast '@' netloc

def bracketedHostAdmitted (lib : TextLibrary) : Text → Bool
  | 'v' :: rest =>
    let (digits,after) := cut '.' rest
    digits ≠ [] && digits.all isHexDigit && (after.getD []) ≠ [] && '\n' ∉ (after.getD [])
  | hostname => lib.isIpv6 hostname

def bracketedNetlocAdmitted (lib : TextLibrary) (netloc : Text) : Bool :=
  match cut '[' (hostAndPort netloc) with
  | (before,some bracketed) =>
    let (hostname,port) := cut ']' bracketed
    before == [] && ((port.getD []) == [] || (port.getD []).head? == some ':') &&
      bracketedHostAdmitted lib hostname
  | (plain,none) => bracketedHostAdmitted lib (cut ':' plain).1

-- no delimiter may appear in the NFKC form only
def normalizedNetlocAdmitted (lib : TextLibrary) (netloc : Text) : Bool :=
  let bare := netloc.filter (fun c => c != '@' && c != ':' && c != '#' && c != '?')
  let folded := lib.nfkc bare
  netloc.all isAscii || bare == folded || folded.all (fun c => c ∉ "/?#@:".toList)

def netlocAdmitted (lib : TextLibrary) (netloc : Text) : Bool :=
  (if '[' ∈ netloc ∧ ']' ∈ netloc then bracketedNetlocAdmitted lib netloc
    else '[' ∉ netloc && ']' ∉ netloc) && normalizedNetlocAdmitted lib netloc

def urlsplit (lib : TextLibrary) (url : Text) : Option SplitResult :=
  let cleaned := (lstrip isC0OrSpace url).filter (fun c => !isUnsafe c)
  let (scheme,afterScheme) := splitScheme cleaned
  let (netloc,afterNetloc) := splitNetloc afterScheme
  if netlocAdmitted lib netloc then
    let (beforeFragment,fragment) := cut '#' afterNetloc
    let (path,query) := cut '?' beforeFragment
    some ⟨scheme,netloc,path,query.getD [],fragment.getD []⟩
  else none

def hostnameText (netloc : Text) : Text :=
  match cut '[' (hostAndPort netloc) with
  | (_,some bracketed) => (cut ']' bracketed).1
  | (plain,none) => (cut ':' plain).1

-- the zone of a scoped IPv6 address keeps its case
def hostname (lib : TextLibrary) (parts : SplitResult) : Option Text :=
  match hostnameText parts.netloc with
  | [] => none
  | text =>
    let (address,zone) := cut '%' text
    some ((lib.lower (String.ofList address)).toList ++ (zone.map ('%' :: ·)).getD [])

def userinfo (netloc : Text) : Option Text :=
  if '@' ∈ netloc then some (netloc.take (netloc.length - (afterLast '@' netloc).length - 1)) else none

def username (parts : SplitResult) : Option Text := (userinfo parts.netloc).map (fun info => (cut ':' info).1)

def password (parts : SplitResult) : Option Text := (userinfo parts.netloc).bind (fun info => (cut ':' info).2)

def usesNetloc : List Text :=
  ["","ftp","http","gopher","nntp","telnet","imap","wais","file","mms","https","shttp","snews",
    "prospero","rtsp","rtsps","rtspu","rsync","svn","svn+ssh","sftp","nfs","git","git+ssh","ws","wss",
    "itms-services"].map String.toList

def urlunsplit (parts : SplitResult) : Text :=
  let rooted := parts.path = [] ∨ parts.path.head? = some '/'
  let path :=
    if parts.netloc ≠ [] then
      ['/','/'] ++ parts.netloc ++ (if rooted then parts.path else '/' :: parts.path)
    else if ['/','/'].isPrefixOf parts.path then ['/','/'] ++ parts.path
    else if parts.scheme ≠ [] ∧ parts.scheme ∈ usesNetloc ∧ rooted then ['/','/'] ++ parts.path
    else parts.path
  (if parts.scheme ≠ [] then parts.scheme ++ [':'] else []) ++ path ++
    (if parts.query ≠ [] then '?' :: parts.query else []) ++
    (if parts.fragment ≠ [] then '#' :: parts.fragment else [])

def usesParams : List Text :=
  ["","ftp","hdl","prospero","http","imap","https","shttp","rtsp","rtsps","rtspu","sip","sips","mms",
    "sftp","tel"].map String.toList

def splitParams (url : Text) : Text × Text :=
  let last := afterLast '/' url
  let (before,params) := cut ';' last
  (url.take (url.length - last.length) ++ before,params.getD [])

def urlparse (lib : TextLibrary) (url : Text) : Option ParseResult := do
  let parts ← urlsplit lib url
  let (path,params) :=
    if parts.scheme ∈ usesParams ∧ ';' ∈ parts.path then splitParams parts.path else (parts.path,[])
  some ⟨parts.scheme,parts.netloc,path,params,parts.query,parts.fragment⟩

def isAlwaysSafe (c : Char) : Bool :=
  isAscii c && (c.isAlphanum || c == '_' || c == '.' || c == '-' || c == '~')

def upperHexDigit (n : Nat) : Char := "0123456789ABCDEF".toList.getD n '0'

def quote (s : Text) : Text := s.flatMap (fun c =>
  if isAlwaysSafe c then [c]
  else (String.utf8EncodeChar c).flatMap (fun b =>
    ['%',upperHexDigit (b.toNat / 16),upperHexDigit (b.toNat % 16)]))

def unquoteToBytes : Text → List UInt8
  | '%' :: a::b::rest =>
    if isHexDigit a && isHexDigit b then
      UInt8.ofNat (hexValue a * 16 + hexValue b)::unquoteToBytes rest
    else UInt8.ofNat '%'.toNat::unquoteToBytes (a::b::rest)
  | c::rest => UInt8.ofNat c.toNat::unquoteToBytes rest
  | [] => []

def unquote (lib : TextLibrary) (s : Text) : Text :=
  if '%' ∉ s then s else
    (s.splitBy (fun a b => isAscii a == isAscii b)).flatMap (fun run =>
      if run.all isAscii then lib.decodeUtf8 (unquoteToBytes run) else run)

def plusToSpace (s : Text) : Text := s.map (fun c => if c = '+' then ' ' else c)

def parseQsl (lib : TextLibrary) (query : Text) : List (Text × Text) :=
  (query.splitOn '&').filterMap (fun pair =>
    let (name,value) := cut '=' pair
    if (value.getD []) = [] then none
    else some (unquote lib (plusToSpace name),unquote lib (plusToSpace (value.getD []))))

def queryValue (lib : TextLibrary) (query key : Text) : Option Text :=
  ((parseQsl lib query).find? (fun p => p.1 == key)).map Prod.snd

def PathStart (c : Char) : Prop :=
  isC0OrSpace c = false ∧ isUnsafe c = false ∧ isAsciiLetter c = false ∧
  c ≠ '/' ∧ c ≠ '#' ∧ c ≠ '?' ∧ c ≠ ';'
instance (c) : Decidable (PathStart c) := by unfold PathStart; infer_instance

theorem digitPathStart {c : Char} (digit : c.isDigit = true) : PathStart c := by
  obtain ⟨low,high⟩ := digitRange digit
  rw [← Char.ofNat_toNat c]
  generalize c.toNat = n at low high
  interval_cases n <;> decide

theorem splitSchemeOpaque {c : Char} (noLetter : isAsciiLetter c = false) (rest : Text) :
    splitScheme (c::rest) = ([],c::rest) := by
  simp only [splitScheme]
  split
  · rename_i _ _ same _
    obtain ⟨rfl,-⟩ := List.cons.inj same
    simp [noLetter]
  · rfl

theorem splitNetlocOpaque {c : Char} (noSlash : c ≠ '/') (rest : Text) :
    splitNetloc (c::rest) = ([],c::rest) := by
  unfold splitNetloc
  split
  · rename_i same
    exact absurd (List.cons.inj same).1 noSlash
  · rfl

theorem urlsplitOpaque (lib : TextLibrary) {c : Char} (start : PathStart c) (rest : Text) :
    ∃ tail query fragment, urlsplit lib (c::rest) = some ⟨[],[],c::tail,query,fragment⟩ := by
  obtain ⟨visible,safe,noLetter,noSlash,noHash,noQuestion,_⟩ := start
  have cleaned : (lstrip isC0OrSpace (c::rest)).filter (fun d => !isUnsafe d) =
      c::rest.filter (fun d => !isUnsafe d) := by
    simp [lstripHead visible,safe]
  have admitted : netlocAdmitted lib [] = true := by simp [netlocAdmitted,normalizedNetlocAdmitted]
  obtain ⟨beforeFragment,cutHash⟩ := cutHead noHash (rest.filter (fun d => !isUnsafe d))
  obtain ⟨tail,cutQuestion⟩ := cutHead noQuestion beforeFragment
  exact ⟨tail,_,_,by
    simp only [urlsplit,cleaned,splitSchemeOpaque noLetter,splitNetlocOpaque noSlash,admitted,
      if_true,cutHash,cutQuestion]; rfl⟩

theorem splitParamsHead {c : Char} (noSemicolon : c ≠ ';') (rest : Text) :
    ∃ tail, (splitParams (c::rest)).1 = c::tail := by
  simp only [splitParams]
  rcases Nat.eq_zero_or_pos ((c::rest).length - (afterLast '/' (c::rest)).length) with whole | later
  · have same : afterLast '/' (c::rest) = c::rest :=
      (afterLastSuffix '/' (c::rest)).eq_of_length_le (Nat.le_of_sub_eq_zero whole)
    obtain ⟨tail,head⟩ := cutHead noSemicolon rest
    exact ⟨tail,by simp [same,head]⟩
  · obtain ⟨k,lead⟩ := Nat.exists_eq_succ_of_ne_zero later.ne'
    exact ⟨rest.take k ++ (cut ';' (afterLast '/' (c::rest))).1,by simp only [lead]; rfl⟩

theorem urlparseOpaque (lib : TextLibrary) {c : Char} (start : PathStart c) (rest : Text) :
    ∃ parsed tail, urlparse lib (c::rest) = some parsed ∧ parsed.path = c::tail := by
  obtain ⟨path,query,fragment,split⟩ := urlsplitOpaque lib start rest
  obtain ⟨tail,params⟩ := splitParamsHead start.2.2.2.2.2.2 path
  by_cases semicolon : ([] : Text) ∈ usesParams ∧ ';' ∈ c::path
  · exact ⟨_,tail,by simp only [urlparse,split,bind,Option.bind,if_pos semicolon]; rfl,params⟩
  · exact ⟨_,path,by simp only [urlparse,split,bind,Option.bind,if_neg semicolon]; rfl,rfl⟩

end OpenHoundOkta.Urls
