import OpenHoundOkta.ResourceReferences

/-! The self-link URL of a reference resolves to what the reference means, at any host, with or
without a trailing slash. -/
namespace OpenHoundOkta.ResourceReferences
open PythonText Urls SortedSets Lookup

variable (lookup : OktaLookup)

theorem rstripKept {p : Char → Bool} {s : Text} {c : Char} (last : s.getLast? = some c) (kept : p c = false) :
    rstrip p s = s := by
  obtain ⟨init,rfl⟩ := List.getLast?_eq_some_iff.mp last
  unfold rstrip
  rw [List.reverse_append,List.reverse_singleton,List.singleton_append,
    List.dropWhile_cons_of_neg (by rw [kept]; exact Bool.false_ne_true),List.reverse_cons,
    List.reverse_reverse]

theorem rstripOne {p : Char → Bool} (s : Text) {c : Char} (stripped : p c = true) :
    rstrip p (s ++ [c]) = rstrip p s := by
  unfold rstrip
  rw [List.reverse_append,List.reverse_singleton,List.singleton_append,
    List.dropWhile_cons_of_pos stripped]

structure Host (lib : TextLibrary) (host : Text) : Prop where
  text : NetlocText host
  admitted : netlocAdmitted lib host = true

def isLinkChar (c : Char) : Bool := isAlwaysSafe c || c == '/'
def isQueryChar (c : Char) : Bool := isAlwaysSafe c || " +%\"=".toList.contains c

structure LinkText (link : Text × Text) : Prop where
  rooted : link.1.head? = some '/'
  ended : ∃ c, link.1.getLast? = some c ∧ c ≠ '/'
  path : ∀ c ∈ link.1, isLinkChar c = true
  query : ∀ c ∈ link.2, isQueryChar c = true

theorem charNe {p : Char → Bool} {c d : Char} (kept : p c = true) (other : p d = false) : c ≠ d := by
  rintro rfl
  rw [kept] at other
  cases other

theorem linkCharSafe {c : Char} (plain : isLinkChar c = true ∨ isQueryChar c = true) :
    isUnsafe c = false := by
  cases unsafeChar : isUnsafe c with
  | false => rfl
  | true =>
    simp only [isUnsafe,Bool.or_eq_true,beq_iff_eq] at unsafeChar
    rcases unsafeChar with (rfl | rfl) | rfl <;> (revert plain; decide)

theorem slashedPath {link : Text × Text} (text : LinkText link) (slash : Bool) {c : Char}
    (mem : c ∈ link.1 ++ (if slash then ['/'] else [])) : isLinkChar c = true := by
  rcases List.mem_append.mp mem with path | last
  · exact text.path c path
  · cases slash with
    | false => cases last
    | true =>
      rw [List.mem_singleton.mp last]
      decide

theorem linkRest {link : Text × Text} (text : LinkText link) (slash : Bool) :
    AfterNetloc (link.1 ++ (if slash then ['/'] else []) ++
      (if link.2 = [] then [] else '?' :: link.2)) := by
  constructor
  · intro c mem
    rcases List.mem_append.mp mem with path | rest
    · exact linkCharSafe (.inl (slashedPath text slash path))
    · split at rest
      · cases rest
      · rcases List.mem_cons.mp rest with rfl | query
        · decide
        · exact linkCharSafe (.inr (text.query c query))
  · intro c first
    obtain ⟨tail,same⟩ := List.head?_eq_some_iff.mp text.rooted
    rw [same] at first
    exact .inl (Option.some.inj first).symm

theorem parsedLink {lib : TextLibrary} {host : Text} (hosted : Host lib host) {link : Text × Text}
    (text : LinkText link) (slash : Bool) :
    urlparse lib (selfLink host slash link) = some ⟨"https".toList,host,
      link.1 ++ (if slash then ['/'] else []),[],link.2,[]⟩ := by
  have noHash : '#' ∉ link.1 ++ (if slash then ['/'] else []) ++
      (if link.2 = [] then [] else '?' :: link.2) := by
    intro mem
    rcases List.mem_append.mp mem with path | rest
    · exact charNe (slashedPath text slash path) (by decide) rfl
    · split at rest
      · cases rest
      · rcases List.mem_cons.mp rest with same | query
        · cases same
        · exact charNe (text.query _ query) (by decide) rfl
  have noQuestion : '?' ∉ link.1 ++ (if slash then ['/'] else []) :=
    fun mem => charNe (slashedPath text slash mem) (by decide) rfl
  have noSemicolon : ';' ∉ link.1 ++ (if slash then ['/'] else []) :=
    fun mem => charNe (slashedPath text slash mem) (by decide) rfl
  have parsed := urlparseWritten lib schemeHttps hosted.text (linkRest text slash) hosted.admitted
  rw [cutAbsent noHash] at parsed
  unfold selfLink
  by_cases bare : link.2 = []
  · simp only [bare,if_true,List.append_nil,cutAbsent noQuestion] at parsed ⊢
    exact parsed noSemicolon
  · simp only [bare,if_false,cutAppend noQuestion] at parsed ⊢
    exact parsed noSemicolon

theorem linkPath {parsed : ParseResult} {link : Text × Text} (text : LinkText link) (slash : Bool)
    (path : parsed.path = link.1 ++ (if slash then ['/'] else [])) : resourcePath parsed = link.1 := by
  obtain ⟨c,last,notSlash⟩ := text.ended
  have kept : isSlash c = false := beq_eq_false_iff_ne.mpr notSlash
  have stripped : rstrip isSlash (link.1 ++ (if slash then ['/'] else [])) = link.1 := by
    cases slash with
    | false =>
      show rstrip isSlash (link.1 ++ []) = link.1
      rw [List.append_nil]
      exact rstripKept last kept
    | true =>
      show rstrip isSlash (link.1 ++ ['/']) = link.1
      rw [rstripOne link.1 rfl]
      exact rstripKept last kept
  obtain ⟨tail,rooted⟩ := List.head?_eq_some_iff.mp text.rooted
  unfold resourcePath
  rw [path,stripped,rooted]

theorem linkResolves {host : Text} (hosted : Host lookup.lib host) {link : Text × Text}
    (text : LinkText link) (slash : Bool) :
    resolveResourceUrl lookup (some (selfLink host slash link)) =
      .ok (resolvePath lookup link.1 link.2) := by
  have given : truthy (some (selfLink host slash link)) = some (selfLink host slash link) :=
    Option.filter_eq_some_iff.mpr ⟨rfl,by simp [selfLink,written]⟩
  unfold resolveResourceUrl
  rw [given]
  simp only [parsedUrl,parsedLink hosted text slash]
  show Except.ok (resolvePath lookup (resourcePath _) link.2) = _
  rw [linkPath text slash rfl]

theorem pathOther {lead other : String} (apart : lead.toList.isPrefixOf other.toList = false) (rest : Text) :
    ¬lead.toList ++ rest = other.toList := by
  intro same
  have start : lead.toList.isPrefixOf other.toList = true :=
    List.isPrefixOf_iff_prefix.mpr (same ▸ List.prefix_append _ _)
  rw [apart] at start
  cases start

theorem startsOther {lead other : String} (apart : lead.toList.isPrefixOf other.toList = false)
    (back : other.toList.isPrefixOf lead.toList = false) (rest : Text) :
    startsWith other (lead.toList ++ rest) = false := by
  cases starts : startsWith other (lead.toList ++ rest) with
  | false => rfl
  | true =>
    have first : other.toList <+: lead.toList ++ rest := List.isPrefixOf_iff_prefix.mp starts
    rcases List.prefix_or_prefix_of_prefix first (List.prefix_append lead.toList rest) with one | two
    · rw [List.isPrefixOf_iff_prefix.mpr one] at back
      cases back
    · rw [List.isPrefixOf_iff_prefix.mpr two] at apart
      cases apart

theorem startsSelf (lead : String) (rest : Text) : startsWith lead (lead.toList ++ rest) = true :=
  List.isPrefixOf_iff_prefix.mpr (List.prefix_append _ _)

theorem resolveCollectionPath (c : Collection) : resolvePath lookup c.path.toList [] = c.ids lookup := by
  cases c <;> rfl

theorem identifierLacks {s : String} (named : Identifier s) {d : Char} (other : isAlwaysSafe d = false) :
    d ∉ s.toList := fun mem => charNe (named.plain d mem) other rfl

theorem lastOfLead {lead s : String} (ended : lead.toList.getLast? = some '/') (named : Identifier s) :
    lastSegment (lead.toList ++ s.toList) = s := by
  obtain ⟨init,same⟩ := List.getLast?_eq_some_iff.mp ended
  unfold lastSegment
  rw [same,List.append_assoc,List.singleton_append,afterLastAppend (identifierLacks named (by decide)),String.ofList_toList]

theorem noUsersEnd {lead s : String} (ended : lead.toList.getLast? = some '/') (named : Identifier s) :
    endsWith "/users" (lead.toList ++ s.toList) = false := by
  cases ends : endsWith "/users" (lead.toList ++ s.toList) with
  | false => rfl
  | true =>
    obtain ⟨before,same⟩ := List.isSuffixOf_iff_suffix.mp ends
    have last := lastOfLead ended named
    unfold lastSegment at last
    rw [← same,show before ++ "/users".toList = before ++ '/' :: "users".toList from rfl,
      afterLastAppend (by decide)] at last
    exact absurd last.symm (reservedFree named.free (by decide))

theorem resolveObjectPath (kind : ObjectKind) {id : String} (named : Identifier id) :
    resolvePath lookup (kind.lead.toList ++ id.toList) [] = existingIds lookup kind.table id := by
  have last : lastSegment (kind.lead.toList ++ id.toList) = id := by
    cases kind <;> exact lastOfLead (by decide) named
  have noUsers : endsWith "/users" (kind.lead.toList ++ id.toList) = false := by
    cases kind <;> exact noUsersEnd (by decide) named
  cases kind <;>
  · simp only [ObjectKind.lead] at last noUsers ⊢
    simp (disch := decide) only [resolvePath,pathOther,startsOther,startsSelf,if_false,if_true,last,
      noUsers,Bool.and_false,Bool.false_eq_true]
    rfl

theorem resolveAppPath (query : Text) {id : String} (named : Identifier id) :
    resolvePath lookup ("/api/v1/apps/".toList ++ id.toList) query =
      sortedSet (existingIds lookup .applications id ++ existingIds lookup .apiServices id) := by
  have last : lastSegment ("/api/v1/apps/".toList ++ id.toList) = id := lastOfLead (by decide) named
  simp (disch := decide) only [resolvePath,pathOther,startsOther,startsSelf,if_false,if_true,last,
    Bool.false_and,Bool.false_eq_true]

theorem resolvePolicyPath (query : Text) {policyType : String} (named : Identifier policyType) :
    resolvePath lookup ("/api/v1/policies/".toList ++ policyType.toList) query =
      policiesByType lookup policyType := by
  have last : lastSegment ("/api/v1/policies/".toList ++ policyType.toList) = policyType :=
    lastOfLead (by decide) named
  simp (disch := decide) only [resolvePath,pathOther,startsOther,startsSelf,if_false,if_true,last,
    Bool.false_and,Bool.false_eq_true]

theorem resolveMembersPath (query : Text) {groupId : String} (named : Identifier groupId) :
    resolvePath lookup ("/api/v1/groups/".toList ++ groupId.toList ++ "/users".toList) query =
      groupUserIds lookup [groupId] := by
  have ends : endsWith "/users" ("/api/v1/groups/".toList ++ groupId.toList ++ "/users".toList) = true :=
    List.isSuffixOf_iff_suffix.mpr (List.suffix_append _ _)
  have segments : ("/api/v1/groups/".toList ++ groupId.toList ++ "/users".toList).splitOn '/' =
      [[],"api".toList,"v1".toList,"groups".toList,groupId.toList,"users".toList] := by
    rw [show "/api/v1/groups/".toList ++ groupId.toList ++ "/users".toList = ['/'].intercalate
      [[],"api".toList,"v1".toList,"groups".toList,groupId.toList,"users".toList] by
        simp [List.intercalate]]
    refine List.splitOn_intercalate '/' ?_ (List.cons_ne_nil _ _)
    intro segment mem
    simp only [List.mem_cons,List.not_mem_nil,or_false] at mem
    rcases mem with rfl | rfl | rfl | rfl | rfl | rfl
    · decide
    · decide
    · decide
    · decide
    · exact identifierLacks named (by decide)
    · decide
  have parent : parentSegment ("/api/v1/groups/".toList ++ groupId.toList ++ "/users".toList) = groupId := by
    unfold parentSegment
    rw [segments]
    exact String.ofList_toList
  rw [List.append_assoc] at ends parent ⊢
  simp (disch := decide) only [resolvePath,pathOther,startsOther,startsSelf,if_false,if_true,ends,parent,
    Bool.and_true,Bool.false_eq_true]

theorem safeAscii {c : Char} (safe : isAlwaysSafe c = true) : isAscii c = true := by
  unfold isAlwaysSafe at safe
  exact (Bool.and_eq_true_iff.mp safe).1

/- The filter behind its field name, with plus signs turned into spaces. -/
def filterText (space mark : Text) (appType : String) : Text :=
  "name".toList ++ space ++ "eq".toList ++ space ++ mark ++ appType.toList ++ mark

theorem filterBytes {space mark : Text} (spaces : space ∈ [" ".toList,"%20".toList])
    (marks : mark ∈ ["\"".toList,"%22".toList]) {appType : String} (named : Identifier appType) :
    unquoteToBytes (filterText space mark appType) =
      "name eq \"".toList.map asciiByte ++ appType.toList.map asciiByte ++ "\"".toList.map asciiByte := by
  have plain : '%' ∉ appType.toList := identifierLacks named (by decide)
  have opened : unquoteToBytes (filterText space mark appType) =
      "name eq \"".toList.map asciiByte ++ unquoteToBytes (appType.toList ++ mark) := by
    simp only [List.mem_cons,List.not_mem_nil,or_false] at spaces marks
    rcases spaces with rfl | rfl <;> rcases marks with rfl | rfl <;> rfl
  have closed : unquoteToBytes mark = "\"".toList.map asciiByte := by
    simp only [List.mem_cons,List.not_mem_nil,or_false] at marks
    rcases marks with rfl | rfl <;> rfl
  rw [opened,unquotePlain plain,closed,List.append_assoc]

theorem filterTextAll {p : Char → Bool} {space mark : Text} {appType : String} (words : "nameeq".toList.all p = true)
    (spaces : space.all p = true) (marks : mark.all p = true) (named : ∀ c ∈ appType.toList, p c = true) :
    ∀ c ∈ filterText space mark appType, p c = true := by
  have letters : "nameeq".toList = "name".toList ++ "eq".toList := by decide
  rw [letters,List.all_append,Bool.and_eq_true] at words
  intro c mem
  unfold filterText at mem
  simp only [List.mem_append] at mem
  rcases mem with (((((word | gap) | word) | gap) | quote) | inType) | quote
  · exact List.all_eq_true.mp words.1 c word
  · exact List.all_eq_true.mp spaces c gap
  · exact List.all_eq_true.mp words.2 c word
  · exact List.all_eq_true.mp spaces c gap
  · exact List.all_eq_true.mp marks c quote
  · exact named c inType
  · exact List.all_eq_true.mp marks c quote

theorem filterAscii {space mark : Text} (spaces : space ∈ [" ".toList,"%20".toList])
    (marks : mark ∈ ["\"".toList,"%22".toList]) {appType : String} (named : Identifier appType) :
    ∀ c ∈ filterText space mark appType, isAscii c = true := by
  have spaceTexts : [" ".toList,"%20".toList].all (fun s => s.all isAscii) = true := by decide
  have markTexts : ["\"".toList,"%22".toList].all (fun s => s.all isAscii) = true := by decide
  exact filterTextAll (by decide) (List.all_eq_true.mp spaceTexts space spaces)
    (List.all_eq_true.mp markTexts mark marks) (fun c mem => safeAscii (named.plain c mem))

theorem filterNonempty (space mark : Text) (appType : String) : filterText space mark appType ≠ [] := by
  unfold filterText
  simp

theorem filterDecoded {lib : TextLibrary} (decodes : DecodesAscii lib) {space mark : Text}
    (spaces : space ∈ [" ".toList,"%20".toList]) (marks : mark ∈ ["\"".toList,"%22".toList])
    {appType : String} (named : Identifier appType) : unquote lib (filterText space mark appType) =
      "name eq \"".toList ++ appType.toList ++ "\"".toList := by
  have texts : ∀ c ∈ "name eq \"".toList ++ appType.toList ++ "\"".toList, isAscii c = true := by
    intro c mem
    rcases List.mem_append.mp mem with first | last
    · rcases List.mem_append.mp first with lead | inType
      · exact List.all_eq_true.mp (show "name eq \"".toList.all isAscii = true by decide) c lead
      · exact safeAscii (named.plain c inType)
    · exact List.all_eq_true.mp (show "\"".toList.all isAscii = true by decide) c last
  have bytes : unquoteToBytes (filterText space mark appType) =
      ("name eq \"".toList ++ appType.toList ++ "\"".toList).map asciiByte := by
    rw [filterBytes spaces marks named,List.map_append,List.map_append]
  rw [unquoteAscii decodes (filterNonempty _ _ _) (filterAscii spaces marks named),bytes,asciiByteBack texts]
  intro b mem
  rw [bytes] at mem
  obtain ⟨c,inText,rfl⟩ := List.mem_map.mp mem
  rw [asciiByteNat (texts c inText)]
  exact of_decide_eq_true (texts c inText)

theorem filterNamed {appType : String} (named : Identifier appType) :
    nameFilter ("name eq \"".toList ++ appType.toList ++ "\"".toList) = some appType.toList := by
  have noMark : '"' ∉ appType.toList := identifierLacks named (by decide)
  have given : appType.toList ≠ [] := fun none => named.nonempty (String.toList_eq_nil_iff.mp none)
  have starts : startsWith "name eq \"" ("name eq \"".toList ++ appType.toList ++ "\"".toList) = true := by
    rw [List.append_assoc]
    exact startsSelf _ _
  have rest : ("name eq \"".toList ++ appType.toList ++ "\"".toList).drop 9 = appType.toList ++ ['"'] := rfl
  unfold nameFilter
  rw [if_pos starts,rest,List.reverse_append,List.reverse_singleton,List.singleton_append]
  show (if _ then _ else _) = _
  rw [if_pos ⟨fun none => given (List.reverse_eq_nil_iff.mp none),
    fun mem => noMark (List.mem_reverse.mp mem)⟩,List.reverse_reverse]

theorem plusFilter {space mark : Text} {appType : String} (named : Identifier appType)
    (markPlain : '+' ∉ mark) : plusToSpace (filterText space mark appType) =
      filterText (plusToSpace space) mark appType := by
  have typePlain : '+' ∉ appType.toList := identifierLacks named (by decide)
  have onAppend : ∀ a b : Text, plusToSpace (a ++ b) = plusToSpace a ++ plusToSpace b :=
    fun a b => List.map_append
  unfold filterText
  simp only [onAppend,plusToSpacePlain typePlain,plusToSpacePlain markPlain]
  rfl

theorem identifierQueryChars {s : String} (named : Identifier s) : ∀ c ∈ s.toList, isQueryChar c = true := by
  intro c mem
  unfold isQueryChar
  rw [named.plain c mem,Bool.true_or]

theorem filterShape (space mark appType : String) : nameFilterQuery space mark appType =
    "filter".toList ++ '=' :: filterText space.toList mark.toList appType := rfl

theorem filterQueryChars {appType : String} (named : Identifier appType) {query : Text}
    (mem : query ∈ nameFilterQueries appType) : ∀ c ∈ query, isQueryChar c = true := by
  simp only [nameFilterQueries,List.mem_flatMap,List.mem_map] at mem
  obtain ⟨space,spaces,mark,marks,rfl⟩ := mem
  have spaceTexts : [" ","+","%20"].all (fun s => s.toList.all isQueryChar) = true := by decide
  have markTexts : ["\"","%22"].all (fun s => s.toList.all isQueryChar) = true := by decide
  have lead : "filter=".toList.all isQueryChar = true := by decide
  have split : nameFilterQuery space mark appType =
      "filter=".toList ++ filterText space.toList mark.toList appType := rfl
  intro c inside
  rw [split] at inside
  rcases List.mem_append.mp inside with first | text
  · exact List.all_eq_true.mp lead c first
  · exact filterTextAll (by decide) (List.all_eq_true.mp spaceTexts space spaces)
      (List.all_eq_true.mp markTexts mark marks) (identifierQueryChars named) c text

theorem typeOfFilter (decodes : DecodesAscii lookup.lib) {appType : String} (named : Identifier appType)
    {query : Text} (mem : query ∈ nameFilterQueries appType) :
    appTypeFromFilter lookup query = some appType.toList := by
  have noAmpersand : '&' ∉ query := fun inside => charNe (filterQueryChars named mem _ inside) (by decide) rfl
  simp only [nameFilterQueries,List.mem_flatMap,List.mem_map] at mem
  obtain ⟨space,spaces,mark,marks,rfl⟩ := mem
  have markForms : mark.toList ∈ ["\"".toList,"%22".toList] := List.mem_map_of_mem marks
  have spaceForms : plusToSpace space.toList ∈ [" ".toList,"%20".toList] := by
    simp only [List.mem_cons,List.not_mem_nil,or_false] at spaces
    rcases spaces with rfl | rfl | rfl <;> decide
  have markPlain : '+' ∉ mark.toList := by
    simp only [List.mem_cons,List.not_mem_nil,or_false] at marks
    rcases marks with rfl | rfl <;> decide
  rw [filterShape] at noAmpersand ⊢
  unfold appTypeFromFilter
  rw [queryValueSingle lookup.lib (by decide) (by decide) (by decide) noAmpersand
    (filterNonempty _ _ _),plusFilter named markPlain,filterDecoded decodes spaceForms markForms named]
  show (if _ then _ else _) = _
  rw [if_neg (by simp)]
  exact filterNamed named

theorem resolveFilter (decodes : DecodesAscii lookup.lib) {appType : String} (named : Identifier appType)
    {query : Text} (mem : query ∈ nameFilterQueries appType) :
    resolvePath lookup "/api/v1/apps".toList query = appsAndIntegrationsByType lookup appType := by
  have found := typeOfFilter lookup decodes named mem
  have given : query ≠ [] := by
    rintro rfl
    cases found
  show (if query = [] then _ else _) = _
  rw [if_neg given,found]
  dsimp only
  rw [String.ofList_toList]

theorem resolveTypeQuery {policyType : String} (named : Identifier policyType) :
    resolvePath lookup "/api/v1/policies".toList ("type=".toList ++ policyType.toList) =
      policiesByType lookup policyType := by
  have given : policyType.toList ≠ [] := fun none => named.nonempty (String.toList_eq_nil_iff.mp none)
  have percent : '%' ∉ policyType.toList := identifierLacks named (by decide)
  have plus : '+' ∉ policyType.toList := identifierLacks named (by decide)
  have typePlain : '&' ∉ policyType.toList := identifierLacks named (by decide)
  have ampersand : '&' ∉ "type".toList ++ '=' :: policyType.toList := by simp [typePlain]
  have shape : "type=".toList ++ policyType.toList = "type".toList ++ '=' :: policyType.toList := rfl
  have value : queryValue lookup.lib ("type=".toList ++ policyType.toList) "type".toList =
      some policyType.toList := by
    rw [shape,queryValueSingle lookup.lib (by decide) (by decide) (by decide) ampersand given,
      plusToSpacePlain plus,unquote,if_pos percent]
  have named : truthy (queryValue lookup.lib ("type=".toList ++ policyType.toList) "type".toList) =
      some policyType.toList := by
    rw [value,truthy,Option.filter_some,if_pos (decide_eq_true given)]
  simp +decide only [resolvePath,named,String.ofList_toList]
  rfl

theorem identifierEnd {s : String} (named : Identifier s) (lead : Text) :
    ∃ c, (lead ++ s.toList).getLast? = some c ∧ c ≠ '/' := by
  have given : s.toList ≠ [] := fun none => named.nonempty (String.toList_eq_nil_iff.mp none)
  refine ⟨s.toList.getLast given,?_,?_⟩
  · rw [List.getLast?_append,List.getLast?_eq_some_getLast given]
    rfl
  · exact charNe (named.plain _ (List.getLast_mem given)) (by decide)

theorem identifierLinkChars {s : String} (named : Identifier s) : ∀ c ∈ s.toList, isLinkChar c = true := by
  intro c mem
  unfold isLinkChar
  rw [named.plain c mem,Bool.true_or]

theorem leadLink {lead s : String} (rooted : lead.toList.head? = some '/')
    (plain : lead.toList.all isLinkChar = true) (named : Identifier s) :
    LinkText (lead.toList ++ s.toList,[]) := by
  refine ⟨?_,identifierEnd named _,?_,fun _ mem => absurd mem List.not_mem_nil⟩
  · show (lead.toList ++ s.toList).head? = some '/'
    rw [List.head?_append,rooted]
    rfl
  · intro c mem
    rcases List.mem_append.mp mem with first | last
    · exact List.all_eq_true.mp plain c first
    · exact identifierLinkChars named c last

theorem writtenLink {path : String} {query : Text} (rooted : path.toList.head? = some '/')
    (ended : ∃ c, path.toList.getLast? = some c ∧ c ≠ '/') (plain : path.toList.all isLinkChar = true)
    (queried : ∀ c ∈ query, isQueryChar c = true) : LinkText (path.toList,query) :=
  ⟨rooted,ended,List.all_eq_true.mp plain,queried⟩

theorem membersLink {groupId : String} (named : Identifier groupId) :
    LinkText ("/api/v1/groups/".toList ++ groupId.toList ++ "/users".toList,[]) := by
  have lead : "/api/v1/groups/".toList.all isLinkChar = true := by decide
  have tail : "/users".toList.all isLinkChar = true := by decide
  refine ⟨?_,⟨'s',?_,by decide⟩,?_,fun _ mem => absurd mem List.not_mem_nil⟩
  · show ("/api/v1/groups/".toList ++ groupId.toList ++ "/users".toList).head? = some '/'
    rw [List.append_assoc,List.head?_append]
    rfl
  · show ("/api/v1/groups/".toList ++ groupId.toList ++ "/users".toList).getLast? = some 's'
    rw [List.getLast?_append]
    rfl
  · intro c mem
    simp only [List.mem_append] at mem
    rcases mem with (first | middle) | last
    · exact List.all_eq_true.mp lead c first
    · exact identifierLinkChars named c middle
    · exact List.all_eq_true.mp tail c last

theorem linkText {reference : Reference} (named : ∀ s ∈ reference.names, Identifier s)
    {link : Text × Text} (mem : link ∈ reference.links) : LinkText link := by
  cases reference with
  | collection c =>
    rw [List.mem_singleton.mp mem]
    cases c <;> exact writtenLink (by decide) ⟨_,rfl,by decide⟩ (by decide)
      (fun _ mem => absurd mem List.not_mem_nil)
  | object kind id =>
    rw [List.mem_singleton.mp mem]
    cases kind <;> exact leadLink (by decide) (by decide) (named id List.mem_cons_self)
  | app appType id =>
    rw [List.mem_singleton.mp mem]
    exact leadLink (by decide) (by decide) (named id (List.mem_cons_of_mem _ List.mem_cons_self))
  | appsOfType appType =>
    obtain ⟨query,queries,rfl⟩ := List.mem_map.mp mem
    exact writtenLink (by decide) ⟨_,rfl,by decide⟩ (by decide)
      (filterQueryChars (named appType List.mem_cons_self) queries)
  | policiesOfType policyType =>
    have policy := named policyType List.mem_cons_self
    have lead : "type=".toList.all isQueryChar = true := by decide
    simp only [Reference.links,List.mem_cons,List.not_mem_nil,or_false] at mem
    rcases mem with rfl | rfl
    · exact leadLink (by decide) (by decide) policy
    · refine writtenLink (by decide) ⟨_,rfl,by decide⟩ (by decide) (fun c inside => ?_)
      rcases List.mem_append.mp inside with first | last
      · exact List.all_eq_true.mp lead c first
      · exact identifierQueryChars policy c last
  | groupMembers groupId =>
    rw [List.mem_singleton.mp mem]
    exact membersLink (named groupId List.mem_cons_self)

theorem urlResolves (decodes : DecodesAscii lookup.lib) {host : Text} (hosted : Host lookup.lib host)
    {reference : Reference} (named : ∀ s ∈ reference.names, Identifier s) {link : Text × Text}
    (mem : link ∈ reference.links) (slash : Bool) :
    resolveResourceUrl lookup (some (selfLink host slash link)) = .ok (referenced lookup reference) := by
  rw [linkResolves lookup hosted (linkText named mem)]
  refine congrArg _ ?_
  cases reference with
  | collection c =>
    rw [List.mem_singleton.mp mem]
    exact resolveCollectionPath lookup c
  | object kind id =>
    rw [List.mem_singleton.mp mem]
    exact resolveObjectPath lookup kind (named id List.mem_cons_self)
  | app appType id =>
    rw [List.mem_singleton.mp mem]
    exact resolveAppPath lookup [] (named id (List.mem_cons_of_mem _ List.mem_cons_self))
  | appsOfType appType =>
    obtain ⟨query,queries,rfl⟩ := List.mem_map.mp mem
    exact resolveFilter lookup decodes (named appType List.mem_cons_self) queries
  | policiesOfType policyType =>
    have policy := named policyType List.mem_cons_self
    simp only [Reference.links,List.mem_cons,List.not_mem_nil,or_false] at mem
    rcases mem with rfl | rfl
    · exact resolvePolicyPath lookup [] policy
    · exact resolveTypeQuery lookup policy
  | groupMembers groupId =>
    rw [List.mem_singleton.mp mem]
    exact resolveMembersPath lookup [] (named groupId List.mem_cons_self)

end OpenHoundOkta.ResourceReferences
