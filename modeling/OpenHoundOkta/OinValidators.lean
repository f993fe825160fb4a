import OpenHoundOkta.Library.ReadUrls
import OpenHoundOkta.Library.Json

/-! `oin_routes/validators.py`: which values of `settings.app` may become part of a route. -/
namespace OpenHoundOkta.OinValidators
open PythonText Urls JsonValues

/- `isOther c` is `unicodedata.category(c).startswith("C")`: the control characters are, the
visible characters of ASCII are not. Letter case leaves marks alone, and an IPv6 address has a
colon before its zone. -/
structure SettingLibrary extends TextLibrary where
  isOther : Char → Bool
  control : ∀ c : Char, c.toNat < 0x20 → isOther c = true
  visible : ∀ c : Char, 0x20 < c.toNat → c.toNat < 0x7f → isOther c = false
  lowerMark : ∀ c ∈ [':','['], ∀ s : String, c ∈ (lower s).toList ↔ c ∈ s.toList
  addressColon : ∀ s, isIpv6 s = true → ':' ∈ (cut '%' s).1

theorem toLowerMark {c d : Char} (mark : c ∈ [':','[']) : d.toLower = c ↔ d = c := by
  by_cases capital : d.val ≥ 'A'.val ∧ d.val ≤ 'Z'.val
  · have table : ∀ n : Fin 26, (Char.ofNat (65+n.val)).toLower ∉ [':','['] := by decide
    have capitals : [':','['].all (fun c => !(65 ≤ c.toNat && c.toNat ≤ 90)) = true := by decide
    have noMark := @ofLetters (fun d => d.toLower ∉ [':','[']) 65 table d capital.1 capital.2
    refine iff_of_false (fun same => noMark (same ▸ mark)) ?_
    rintro rfl
    have outside := List.all_eq_true.mp capitals d mark
    have low : 65 ≤ d.toNat := capital.1
    have high : d.toNat ≤ 90 := capital.2
    simp [low,high] at outside
  · unfold Char.toLower
    rw [dif_neg capital]

theorem lowerLettersMark {c : Char} (mark : c ∈ [':','[']) (s : String) :
    c ∈ (lowerLetters s).toList ↔ c ∈ s.toList := by
  unfold lowerLetters
  rw [String.toList_ofList,List.mem_map]
  constructor
  · rintro ⟨d,mem,same⟩
    exact (toLowerMark mark).mp same ▸ mem
  · exact fun mem => ⟨c,mem,(toLowerMark mark).mpr rfl⟩

def asciiSettings : SettingLibrary :=
  { letterwiseLibrary with
    isIpv6 := fun s => s == "2001:db8::1%.miro.com".toList
    isOther := fun c => c.toNat < 0x20 || c.toNat == 0x7f
    control := fun c low => by simp [low]
    visible := fun c above below => by
      have high : ¬c.toNat < 0x20 := by omega
      have other : c.toNat ≠ 0x7f := by omega
      simp [high,other]
    lowerMark := fun c mark s => lowerLettersMark mark s
    addressColon := fun s address => by
      rw [beq_iff_eq.mp address]
      decide }

variable (lib : SettingLibrary)

def presentString (text : Json → String) : Json → Option String
  | .null => none
  | .string s => if strip s = "" then none else some (strip s)
  | other => if strip (text other) = "" then none else some (strip (text other))

def asString : Json → Option String
  | .string s => some s
  | _ => none

def trimmedString (value : Json) : Option String := (asString value).filter (fun s => s = strip s)

def isSlug (inner : ℕ) : Text → Bool
  | [] => false
  | c::rest => c.isAlphanum && (rest == [] ||
      (rest.length ≤ inner + 1 && rest.dropLast.all (fun d => d.isAlphanum || d == '-') &&
        (rest.getLastD ' ').isAlphanum))

def isHostLabel (s : Text) : Bool := isSlug 61 s
def isGithubSlug (s : Text) : Bool := isSlug 98 s

def isHostScope (s : Text) : Bool := s ≠ [] && s.length ≤ 253 && '.' ∈ s && (s.splitOn '.').all isHostLabel

def hostScope (value : Json) : Option String := (trimmedString value).filter (fun s => isHostScope s.toList)

def githubSlug (value : Json) : Option String := (trimmedString value).filter (fun s => isGithubSlug s.toList)

def hostLabel (value : Json) : Option String := (trimmedString value).filter (fun s => isHostLabel s.toList)

def slackDomain (value : Json) : Option String :=
  (trimmedString value).filter (fun s =>
    match s.toList.splitOn '.' with
    | [label] => isHostLabel label
    | [label,last] => last == "enterprise".toList && isHostLabel label
    | _ => false)

/- `ipaddress.IPv4Address` -/
def isIpv4Octet (s : Text) : Bool :=
  s ≠ [] && s.all Char.isDigit && s.length ≤ 3 && (s == ['0'] || s.head? != some '0') &&
    s.foldl (fun n c => n * 10 + (c.toNat - 48)) 0 ≤ 255

def isIpv4 (s : Text) : Bool := (s.splitOn '.').length == 4 && (s.splitOn '.').all isIpv4Octet

def isIpAddress (s : Text) : Bool := isIpv4 s || lib.isIpv6 s

def isUrlHost (host : Text) : Bool :=
  isIpAddress lib host || (hostScope (.string (String.ofList host))).isSome

def httpsParts (pathAllowed : Text → Bool) (value : Json) : Option SplitResult := do
  let url ← trimmedString value
  if url.toList.any (fun c => isSpace c || lib.isOther c) then none
  else
    let parsed ← urlsplit lib.toTextLibrary url.toList
    if !portReadable parsed.netloc then none
    else
      let host ← hostname lib.toTextLibrary parsed
      if parsed.scheme ≠ "https".toList ∨ parsed.netloc = [] ∨ parsed.netloc.getLast? = some ':' ∨
        host = [] ∨ username parsed ≠ none ∨ password parsed ≠ none ∨ pathAllowed parsed.path = false ∨
        parsed.query ≠ [] ∨ parsed.fragment ≠ [] then none
      else if isUrlHost lib host then some parsed
      else none

def httpsOrigin (value : Json) : Option String :=
  (httpsParts lib (fun path => path == [] || path == ['/']) value).map fun parsed =>
    String.ofList (urlunsplit ⟨parsed.scheme,parsed.netloc,[],[],[]⟩)

def httpsUrl (value : Json) : Option String :=
  (httpsParts lib (fun _ => true) value).map fun parsed =>
    String.ofList (urlunsplit ⟨parsed.scheme,parsed.netloc,parsed.path,[],[]⟩)

theorem trimmedRead {value : Json} {s : String} (trimmed : trimmedString value = some s) :
    value = .string s ∧ s = strip s := by
  unfold trimmedString at trimmed
  rw [Option.filter_eq_some_iff] at trimmed
  cases value with
  | string read =>
    cases Option.some.inj trimmed.1
    exact ⟨rfl,of_decide_eq_true trimmed.2⟩
  | _ => exact nomatch trimmed.1

theorem stripSpaceless {s : String} (visible : ∀ c ∈ s.toList, isSpace c = false) : strip s = s := by
  have kept : ∀ t : Text, (∀ c ∈ t, isSpace c = false) → t.dropWhile isSpace = t := by
    intro t
    cases t with
    | nil => exact fun _ => rfl
    | cons c rest => exact fun none => List.dropWhile_cons_of_neg (by simp [none c List.mem_cons_self])
  unfold strip rstrip lstrip
  rw [kept _ visible,kept _ (fun c mem => visible c (List.mem_reverse.mp mem)),List.reverse_reverse,
    String.ofList_toList]

def Visible (text : Text) : Prop := ∀ c ∈ text, isSpace c = false ∧ lib.isOther c = false

def restPath (rest : Text) : Text := (cut '?' (cut '#' rest).1).1

structure HttpsNetloc (netloc : Text) : Prop where
  text : NetlocText netloc
  nonempty : netloc ≠ []
  admitted : netlocAdmitted lib.toTextLibrary netloc = true
  port : portReadable netloc = true
  noEmptyPort : netloc.getLast? ≠ some ':'
  noUser : '@' ∉ netloc
  host : ∃ host, hostname lib.toTextLibrary ⟨[],netloc,[],[],[]⟩ = some host ∧ host ≠ [] ∧
    isUrlHost lib host = true

structure HttpsText (url scheme netloc rest : Text) : Prop where
  visible : Visible lib url
  named : SchemeText scheme
  https : scheme.map Char.toLower = "https".toList
  host : HttpsNetloc lib netloc
  after : AfterNetloc rest
  form : url = written scheme netloc rest
  noQuery : ((cut '?' (cut '#' rest).1).2).getD [] = []
  noFragment : ((cut '#' rest).2).getD [] = []

variable {lib}

theorem visibleSafeChar {text : Text} (visible : Visible lib text) : ∀ c ∈ text, isUnsafe c = false := by
  intro c mem
  have noSpace := (visible c mem).1
  unfold isUnsafe
  rw [Bool.or_eq_false_iff,Bool.or_eq_false_iff,beq_eq_false_iff_ne,beq_eq_false_iff_ne,beq_eq_false_iff_ne]
  refine ⟨⟨?_,?_⟩,?_⟩ <;>
  · rintro rfl
    revert noSpace
    decide

theorem visibleCleaned {url : Text} (visible : Visible lib url) : cleaned url = url := by
  have start : lstrip isC0OrSpace url = url := by
    cases url with
    | nil => rfl
    | cons c rest =>
      refine lstripHead (decide_eq_false fun low => ?_) rest
      obtain ⟨noSpace,noOther⟩ := visible c List.mem_cons_self
      rcases Nat.lt_or_eq_of_le low with control | space
      · rw [lib.control c control] at noOther
        cases noOther
      · unfold isSpace at noSpace
        rw [space] at noSpace
        cases noSpace
  unfold cleaned
  rw [start]
  exact filterSafe (visibleSafeChar visible)

theorem noUserinfo {parts : SplitResult} (user : username parts = none) : '@' ∉ parts.netloc := by
  intro mem
  unfold username userinfo at user
  rw [if_pos mem] at user
  cases user

theorem noUsername {parts : SplitResult} (absent : '@' ∉ parts.netloc) :
    username parts = none ∧ password parts = none := by
  unfold username password userinfo
  rw [if_neg absent]
  exact ⟨rfl,rfl⟩

theorem httpsPartsRead {pathAllowed : Text → Bool} {value : Json} {parsed : SplitResult}
    (read : httpsParts lib pathAllowed value = some parsed) :
    ∃ url scheme rest, value = .string url ∧ HttpsText lib url.toList scheme parsed.netloc rest ∧
      parsed = splitRest "https".toList parsed.netloc rest ∧ pathAllowed (restPath rest) = true := by
  unfold httpsParts at read
  obtain ⟨url,trimmed,read⟩ := Option.bind_eq_some_iff.mp read
  split at read
  · cases read
  rename_i plain
  obtain ⟨parts,split,read⟩ := Option.bind_eq_some_iff.mp read
  split at read
  · cases read
  rename_i port
  obtain ⟨host,named,read⟩ := Option.bind_eq_some_iff.mp read
  split at read
  · cases read
  rename_i checks
  split at read
  swap
  · cases read
  rename_i admittedHost
  cases read
  simp only [not_or,ne_eq,not_not] at checks
  obtain ⟨https,nonempty,noEmptyPort,hostGiven,user,-,path,query,fragment⟩ := checks
  have visible : Visible lib url.toList := fun c mem => by
    have none : ¬(isSpace c || lib.isOther c) = true :=
      fun bad => plain (List.any_eq_true.mpr ⟨c,mem,bad⟩)
    simpa using none
  have schemeGiven : parsed.scheme ≠ [] := by
    rw [https]
    decide
  obtain ⟨scheme,rest,schemeText,netlocText,after,form,admitted,whole⟩ :=
    urlsplitRead split schemeGiven nonempty
  rw [visibleCleaned visible] at form
  have lowered : scheme.map Char.toLower = "https".toList := by
    rw [← https,whole]
    rfl
  rw [lowered] at whole
  rw [whole] at path query fragment
  refine ⟨url,scheme,rest,(trimmedRead trimmed).1,?_,whole,Bool.eq_true_of_not_eq_false path⟩
  refine ⟨visible,schemeText,lowered,?_,after,form,query,fragment⟩
  exact ⟨netlocText,nonempty,admitted,by simpa using port,noEmptyPort,noUserinfo user,host,
    (hostnameOfNetloc rfl).symm.trans named,hostGiven,admittedHost⟩

theorem httpsPartsWritten {pathAllowed : Text → Bool} {url : String} {scheme netloc rest : Text}
    (text : HttpsText lib url.toList scheme netloc rest) (allowed : pathAllowed (restPath rest) = true) :
    httpsParts lib pathAllowed (.string url) = some (splitRest "https".toList netloc rest) := by
  have trimmed : trimmedString (.string url) = some url := by
    have same := stripSpaceless fun c mem => (text.visible c mem).1
    simp [trimmedString,asString,same]
  have plain : ¬url.toList.any (fun c => isSpace c || lib.isOther c) = true := by
    intro bad
    obtain ⟨c,mem,bad⟩ := List.any_eq_true.mp bad
    rw [(text.visible c mem).1,(text.visible c mem).2] at bad
    cases bad
  have split : urlsplit lib.toTextLibrary url.toList = some (splitRest "https".toList netloc rest) := by
    rw [text.form,urlsplitWritten _ text.named text.host.text text.after,if_pos text.host.admitted,text.https]
  obtain ⟨host,named,given,admitted⟩ := text.host.host
  have named : hostname lib.toTextLibrary (splitRest "https".toList netloc rest) = some host :=
    (hostnameOfNetloc rfl).trans named
  have noPort : ¬(!portReadable (splitRest "https".toList netloc rest).netloc) = true := by
    simp [splitRest,text.host.port]
  obtain ⟨user,password⟩ := @noUsername (splitRest "https".toList netloc rest) text.host.noUser
  unfold httpsParts
  simp only [trimmed,split,named,bind,Option.bind,if_neg plain,if_neg noPort]
  rw [if_neg,if_pos admitted]
  simp only [user,password,not_or,ne_eq,not_not]
  exact ⟨rfl,text.host.nonempty,text.host.noEmptyPort,given,trivial,trivial,ne_false_of_eq_true allowed,
    text.noQuery,text.noFragment⟩

structure PlainPath (path : Text) : Prop where
  rooted : path = [] ∨ path.head? = some '/'
  noQuestion : '?' ∉ path
  noHash : '#' ∉ path

theorem plainRestPath {path : Text} (plain : PlainPath path) : restPath path = path ∧
    ((cut '?' (cut '#' path).1).2).getD [] = [] ∧ ((cut '#' path).2).getD [] = [] := by
  unfold restPath
  rw [cutAbsent plain.noHash,cutAbsent plain.noQuestion]
  exact ⟨rfl,rfl,rfl⟩

theorem restPathPrefix (rest : Text) : restPath rest <+: rest := (cutPrefix _ _).trans (cutPrefix _ _)

theorem cutFirst {sep : Char} (s : Text) : sep ∉ (cut sep s).1 := by
  cases found : cut sep s with
  | mk before after =>
    cases after with
    | none =>
      obtain ⟨rfl,absent⟩ := cutNone found
      exact absent
    | some after => exact (cutSome found).2

theorem restPathPlain {rest : Text} (after : AfterNetloc rest) : PlainPath (restPath rest) where
  rooted := by
    cases path : restPath rest with
    | nil => exact .inl rfl
    | cons c tail =>
      have initial := restPathPrefix rest
      have noQuestion : '?' ∉ restPath rest := cutFirst _
      have noHash : '#' ∉ restPath rest := fun mem => cutFirst rest ((cutPrefix _ _).subset mem)
      rw [path] at initial noQuestion noHash
      obtain ⟨behind,rfl⟩ := initial
      right
      rcases after.delimited c rfl with rfl | rfl | rfl
      · rfl
      · exact absurd List.mem_cons_self noQuestion
      · exact absurd List.mem_cons_self noHash
  noQuestion := cutFirst _
  noHash mem := cutFirst rest ((cutPrefix _ _).subset mem)

theorem noneVisible : Visible lib [] := fun _ mem => absurd mem List.not_mem_nil

theorem asciiVisible {s : Text} (ascii : s.all (fun c => !isSpace c && 0x20 < c.toNat && c.toNat < 0x7f) = true) :
    Visible lib s := by
  intro c mem
  have here := List.all_eq_true.mp ascii c mem
  simp only [Bool.and_eq_true,Bool.not_eq_true',decide_eq_true_eq] at here
  exact ⟨here.1.1,lib.visible c here.1.2 here.2⟩

theorem httpsVisible : Visible lib "https".toList := asciiVisible (by decide)

theorem httpsTextWritten {url scheme netloc rest path : Text} (text : HttpsText lib url scheme netloc rest)
    (visible : Visible lib path) (plain : PlainPath path) :
    HttpsText lib (written "https".toList netloc path) "https".toList netloc path := by
  obtain ⟨-,noQuery,noFragment⟩ := plainRestPath plain
  refine ⟨?_,schemeHttps,by decide,text.host,⟨visibleSafeChar visible,?_⟩,rfl,noQuery,noFragment⟩
  · intro c mem
    have given : ∀ d ∈ [':','/','/'] ++ netloc, isSpace d = false ∧ lib.isOther d = false := by
      intro d mem
      refine text.visible d ?_
      rw [text.form,written]
      simp only [List.mem_append] at mem ⊢
      exact .inl (mem.elim (fun mark => .inl (.inr mark)) .inr)
    unfold written at mem
    simp only [List.mem_append] at mem
    rcases mem with ((inScheme | inMarks) | inNetloc) | inPath
    · exact httpsVisible c inScheme
    · exact given c (List.mem_append_left _ inMarks)
    · exact given c (List.mem_append_right _ inNetloc)
    · exact visible c inPath
  · intro c first
    rcases plain.rooted with rfl | slash
    · cases first
    · exact .inl (Option.some.inj (first.symm.trans slash))

theorem urlunsplitPlain {netloc path : Text} (nonempty : netloc ≠ []) (rooted : path = [] ∨ path.head? = some '/') :
    urlunsplit ⟨"https".toList,netloc,path,[],[]⟩ = written "https".toList netloc path := by
  unfold urlunsplit written
  simp only [ne_eq,nonempty,not_false_eq_true,if_true,rooted,not_true_eq_false,if_false,List.append_nil]
  rfl

theorem restPathVisible {url scheme netloc rest : Text} (text : HttpsText lib url scheme netloc rest) :
    Visible lib (restPath rest) := by
  intro c mem
  refine text.visible c ?_
  rw [text.form,written]
  exact List.mem_append_right _ ((restPathPrefix rest).subset mem)

theorem httpsUrlRead {value : Json} {emitted : String} (read : httpsUrl lib value = some emitted) :
    ∃ url scheme netloc rest, value = .string url ∧ HttpsText lib url.toList scheme netloc rest ∧
      emitted.toList = written "https".toList netloc (restPath rest) := by
  unfold httpsUrl at read
  obtain ⟨parsed,parts,whole⟩ := Option.map_eq_some_iff.mp read
  obtain ⟨url,scheme,rest,rfl,text,shape,-⟩ := httpsPartsRead parts
  refine ⟨url,scheme,parsed.netloc,rest,rfl,text,?_⟩
  rw [← whole,String.toList_ofList,shape]
  exact urlunsplitPlain text.host.nonempty (restPathPlain text.after).rooted

theorem httpsOriginRead {value : Json} {emitted : String} (read : httpsOrigin lib value = some emitted) :
    ∃ url scheme netloc rest, HttpsText lib url scheme netloc rest ∧
      emitted.toList = written "https".toList netloc [] ∧ httpsOrigin lib (.string emitted) = some emitted := by
  unfold httpsOrigin at read ⊢
  obtain ⟨parsed,parts,whole⟩ := Option.map_eq_some_iff.mp read
  obtain ⟨url,scheme,rest,-,text,shape,-⟩ := httpsPartsRead parts
  have https : parsed.scheme = "https".toList := by rw [shape]; rfl
  have origin := urlunsplitPlain text.host.nonempty (.inl rfl)
  have form : emitted.toList = written "https".toList parsed.netloc [] := by
    rw [← whole,String.toList_ofList,https,origin]
  have again : HttpsText lib emitted.toList "https".toList parsed.netloc [] := by
    rw [form]
    exact httpsTextWritten text noneVisible ⟨.inl rfl,List.not_mem_nil,List.not_mem_nil⟩
  refine ⟨url.toList,scheme,parsed.netloc,rest,text,form,?_⟩
  rw [httpsPartsWritten again rfl,Option.map_some,← whole]
  refine congrArg (fun s => some (String.ofList (urlunsplit s))) ?_
  rw [https]
  rfl

def WrittenPlainly (url : String) : Prop :=
  "https://".toList <+: url.toList ∧ '?' ∉ url.toList ∧ '#' ∉ url.toList

theorem writtenMarks {scheme netloc path : Text} (named : SchemeText scheme) (host : NetlocText netloc)
    {c : Char} (mark : c = '?' ∨ c = '#') : c ∈ written scheme netloc path ↔ c ∈ path := by
  unfold written
  simp only [List.mem_append]
  refine ⟨fun mem => ?_,.inr⟩
  rcases mem with ((inScheme | inMarks) | inNetloc) | inPath
  · have plain := named.chars c inScheme
    rcases mark with rfl | rfl <;> exact absurd plain (by decide)
  · rcases mark with rfl | rfl <;> exact absurd inMarks (by decide)
  · have undelimited := host.undelimited c inNetloc
    rcases mark with rfl | rfl
    · exact absurd rfl undelimited.2.1
    · exact absurd rfl undelimited.2.2
  · exact inPath

theorem httpsUrlSame {url emitted : String} (read : httpsUrl lib (.string url) = some emitted) :
    emitted = url ↔ WrittenPlainly url := by
  obtain ⟨given,scheme,netloc,rest,same,text,whole⟩ := httpsUrlRead read
  cases same
  have path := restPathPlain text.after
  constructor
  · rintro rfl
    rw [text.form] at whole
    refine ⟨?_,?_,?_⟩
    · rw [text.form,whole]
      exact ⟨netloc ++ restPath rest,by simp [written]⟩
    · rw [text.form,whole,writtenMarks schemeHttps text.host.text (.inl rfl)]
      exact path.noQuestion
    · rw [text.form,whole,writtenMarks schemeHttps text.host.text (.inr rfl)]
      exact path.noHash
  · rintro ⟨lead,noQuestion,noHash⟩
    rw [text.form,writtenMarks text.named text.host.text (.inl rfl)] at noQuestion
    rw [text.form,writtenMarks text.named text.host.text (.inr rfl)] at noHash
    have kept : restPath rest = rest := by
      rw [restPath,cutAbsent noHash,cutAbsent noQuestion]
    -- the first colon ends the scheme
    obtain ⟨tail,start⟩ := lead
    have noColon : ':' ∉ scheme := fun mem => (schemeCharVisible (text.named.chars ':' mem)).2.2 rfl
    have parts : scheme ++ ':' :: ('/' :: '/' :: (netloc ++ rest)) = "https".toList ++ ':' :: ('/' :: '/' :: tail) := by
      have slashes : "https://".toList = "https".toList ++ [':','/','/'] := rfl
      rw [text.form,slashes,written] at start
      simpa only [List.append_assoc,List.cons_append,List.nil_append] using start.symm
    have cuts := congrArg (cut ':') parts
    rw [cutAppend noColon,cutAppend (by decide)] at cuts
    apply String.toList_injective
    rw [whole,text.form,kept,(Prod.mk.inj cuts).1]

end OpenHoundOkta.OinValidators
