import OpenHoundOkta.BaseUrlOrigin

/-! Requests to an accepted base URL. The check reads a stripped copy while requests append
to the text as it was given. -/
namespace OpenHoundOkta.BaseUrlRequests
open PythonText Urls BaseUrlOrigin

def leading (s : Text) : Text := s.takeWhile isSpace
def trailing (s : Text) : Text := ((lstrip isSpace s).reverse.takeWhile isSpace).reverse

structure Usable (s path : Text) : Prop where
  leadingPlain : ∀ c ∈ leading s, isC0OrSpace c = true
  unmarked : '?' ∉ s ∧ '#' ∉ s ∧ '@' ∉ s
  -- the white space at the end vanishes, or belongs to the port
  trailingPlain : safeChars (trailing s) = [] ∨ ':' ∈ afterLast ']' (afterLast '/' (cleaned (stripped s)))
  pathSafe : ∀ c ∈ path, isUnsafe c = false
  noParams : ';' ∉ afterLast '/' path

structure UnicodeText (lib : TextLibrary) : Prop where
  casefoldAscii : ∀ s : Text, (∀ c ∈ s, isAscii c = true) →
    lib.casefold (String.ofList s) = String.ofList (s.map Char.toLower)
  lowerSpace : ∀ s w : Text, (∀ c ∈ w, isSpace c = true) →
    (lib.lower (String.ofList (s ++ w))).toList = (lib.lower (String.ofList s)).toList ++ w
  nfkcAscii : ∀ s : Text, (∀ c ∈ s, isAscii c = true) → lib.nfkc s = s
  nfkcSpace : ∀ s w : Text, (∀ c ∈ w, isSpace c = true) →
    ∃ v, (∀ c ∈ v, isSpace c = true) ∧ lib.nfkc (s ++ w) = lib.nfkc s ++ v

theorem stripSplit (s : Text) : s = leading s ++ (stripped s ++ trailing s) := by
  unfold leading trailing stripped rstrip lstrip
  rw [← List.reverse_append,List.takeWhile_append_dropWhile,List.reverse_reverse,
    List.takeWhile_append_dropWhile]

theorem leadingSpace {s : Text} {c : Char} (mem : c ∈ leading s) : isSpace c = true := List.mem_takeWhile_imp mem

theorem trailingSpace {s : Text} {c : Char} (mem : c ∈ trailing s) : isSpace c = true :=
  List.mem_takeWhile_imp (List.mem_reverse.mp mem)

structure Mark (c : Char) : Prop where
  visible : isSpace c = false
  printed : isC0OrSpace c = false
  safe : isUnsafe c = false
  letterless : isSchemeChar c = false

theorem memCleaned {s : Text} {c : Char} (mark : Mark c) : c ∈ s ↔ c ∈ cleaned (stripped s) := by
  have inner : c ∈ s ↔ c ∈ stripped s := by
    conv_lhs => rw [stripSplit s]
    rw [List.mem_append,List.mem_append]
    constructor
    · rintro (ahead | mem | behind)
      · exact absurd (leadingSpace ahead) (by simp [mark.visible])
      · exact mem
      · exact absurd (trailingSpace behind) (by simp [mark.visible])
    · exact fun mem => .inr (.inl mem)
  rw [inner]
  unfold cleaned lstrip
  rw [List.mem_filter]
  constructor
  · intro mem
    exact ⟨memDropWhile mem mark.printed,by simp [mark.safe]⟩
  · rintro ⟨mem,-⟩
    exact List.dropWhile_subset _ mem

theorem requestCleaned {s : Text} (plain : ∀ c ∈ leading s, isC0OrSpace c = true)
    (shown : cleaned (stripped s) ≠ []) (p : Text) :
    cleaned (s ++ p) = cleaned (stripped s) ++ (safeChars (trailing s) ++ safeChars p) := by
  have start : (stripped s).dropWhile isC0OrSpace ≠ [] := by
    intro empty
    unfold cleaned lstrip at shown
    rw [empty] at shown
    exact shown rfl
  conv_lhs => rw [stripSplit s]
  unfold cleaned lstrip safeChars
  rw [List.append_assoc,List.dropWhile_append_of_pos plain,List.append_assoc,List.dropWhile_append,
    if_neg (by simpa using start)]
  simp only [List.filter_append]

theorem lateSpace {c : Char} (space : isSpace c = true) (late : isC0OrSpace c = false) :
    isUnsafe c = false ∧ isAsciiLetter c = false := by
  have above : 0x20 < c.toNat := by simpa [isC0OrSpace] using late
  have beyond : 0x80 ≤ c.toNat := by
    unfold isSpace at space
    simp at space
    omega
  refine ⟨(visibleSafe above).2,?_⟩
  unfold isAsciiLetter isAscii
  rw [decide_eq_false (by omega)]
  rfl

theorem requestOpaque {s : Text} {c : Char} (mem : c ∈ leading s) (beyond : isC0OrSpace c = false)
    (lib : TextLibrary) (p : Text) {parts : SplitResult} (read : urlsplit lib (s ++ p) = some parts) :
    parts.scheme = [] := by
  have kept := memDropWhile mem beyond
  cases first : (leading s).dropWhile isC0OrSpace with
  | nil =>
    rw [first] at kept
    cases kept
  | cons d more =>
    have late : isC0OrSpace d = false := by
      have stops := List.head?_dropWhile_not isC0OrSpace (leading s)
      rw [first] at stops
      simpa using stops
    have inside : d ∈ leading s := List.dropWhile_subset _ (first ▸ List.mem_cons_self)
    obtain ⟨safe,noLetter⟩ := lateSpace (leadingSpace inside) late
    have head : ∃ tail, cleaned (s ++ p) = d :: tail := by
      refine ⟨safeChars (more ++ (stripped s ++ trailing s) ++ p),?_⟩
      conv_lhs => rw [stripSplit s]
      unfold cleaned lstrip safeChars
      rw [List.append_assoc,List.dropWhile_append,if_neg (by simp [first]),first,List.cons_append,
        List.filter_cons_of_pos (by simp [safe])]
      simp only [List.append_assoc]
    obtain ⟨tail,shape⟩ := head
    rw [urlsplitScheme read,shape,splitSchemeOpaque noLetter]

/-! White space at the end of a netloc: part of the port if there is a colon for one, else it
changes the host or makes the brackets invalid. -/

theorem spaceNot {c : Char} (visible : isSpace c = false) {w : Text} (space : ∀ d ∈ w, isSpace d = true) :
    c ∉ w := by
  intro mem
  rw [space c mem] at visible
  cases visible

theorem notSpaced {c : Char} (visible : isSpace c = false) {s w : Text} (absent : c ∉ s)
    (space : ∀ d ∈ w, isSpace d = true) : c ∉ s ++ w := by
  rw [List.mem_append,not_or]
  exact ⟨absent,spaceNot visible space⟩

theorem cutSpaced {c : Char} {s w : Text} (mem : c ∈ s) : (cut c (s ++ w)).1 = (cut c s).1 := by
  obtain ⟨ahead,behind,whole,unseen⟩ := List.eq_append_cons_of_mem mem
  rw [whole,List.append_assoc,List.cons_append,cutAppend unseen,cutAppend unseen]

theorem loweredSpaced {lib : TextLibrary} (tables : UnicodeText lib) (text : Text) {w : Text}
    (space : ∀ c ∈ w, isSpace c = true) : loweredHost lib (text ++ w) = loweredHost lib text ++ w := by
  unfold loweredHost
  by_cases zone : '%' ∈ text
  · obtain ⟨ahead,behind,whole,unseen⟩ := List.eq_append_cons_of_mem zone
    rw [whole,List.append_assoc,List.cons_append,cutAppend unseen,cutAppend unseen]
    simp
  · have absent : '%' ∉ text ++ w := notSpaced (by decide) zone space
    rw [cutAbsent zone,cutAbsent absent]
    simp only [Option.map_none,Option.getD_none,List.append_nil]
    exact tables.lowerSpace text w space

def bare (netloc : Text) : Text := netloc.filter (fun c => c != '@' && c != ':' && c != '#' && c != '?')

def Delimiterless (s : Text) : Prop := ∀ c ∈ s, c ∉ "/?#@:".toList

theorem spaceDelimiterless {w : Text} (space : ∀ c ∈ w, isSpace c = true) : Delimiterless w := by
  intro c mem delimiter
  have visible : "/?#@:".toList.all (fun d => !isSpace d) = true := by decide
  have seen := List.all_eq_true.mp visible c delimiter
  rw [space c mem] at seen
  cases seen

theorem bareDelimiterless {netloc : Text} (host : NetlocText netloc) : Delimiterless (bare netloc) := by
  intro c mem delimiter
  obtain ⟨inside,kept⟩ := List.mem_filter.mp mem
  have undelimited := host.undelimited c inside
  simp at kept delimiter
  obtain ⟨⟨⟨user,colon⟩,hash⟩,question⟩ := kept
  rcases delimiter with rfl | rfl | rfl | rfl | rfl
  · exact undelimited.1 rfl
  · exact question rfl
  · exact hash rfl
  · exact user rfl
  · exact colon rfl

theorem foldedDelimiterless {lib : TextLibrary} (tables : UnicodeText lib) {netloc : Text}
    (host : NetlocText netloc) (admitted : normalizedNetlocAdmitted lib netloc = true) :
    Delimiterless (lib.nfkc (bare netloc)) := by
  have either : (netloc.all isAscii = true ∨ bare netloc = lib.nfkc (bare netloc)) ∨
      Delimiterless (lib.nfkc (bare netloc)) := by
    simpa [normalizedNetlocAdmitted,bare,Delimiterless] using admitted
  rcases either with (ascii | same) | folded
  · have bareAscii : ∀ c ∈ bare netloc, isAscii c = true :=
      fun c mem => List.all_eq_true.mp ascii c (List.mem_of_mem_filter mem)
    rw [tables.nfkcAscii _ bareAscii]
    exact bareDelimiterless host
  · rw [← same]
    exact bareDelimiterless host
  · exact folded

theorem normalizedSpaced {lib : TextLibrary} (tables : UnicodeText lib) {netloc w : Text}
    (host : NetlocText netloc) (admitted : normalizedNetlocAdmitted lib netloc = true)
    (space : ∀ c ∈ w, isSpace c = true) : normalizedNetlocAdmitted lib (netloc ++ w) = true := by
  have kept : bare (netloc ++ w) = bare netloc ++ w := by
    unfold bare
    rw [List.filter_append]
    congr 1
    apply List.filter_eq_self.mpr
    intro c mem
    have plain := spaceDelimiterless space c mem
    simp at plain ⊢
    exact ⟨⟨⟨plain.2.2.2.1,plain.2.2.2.2⟩,plain.2.2.1⟩,plain.2.1⟩
  obtain ⟨v,blank,folded⟩ := tables.nfkcSpace (bare netloc) w space
  have allowed : Delimiterless (lib.nfkc (bare (netloc ++ w))) := by
    rw [kept,folded]
    intro c mem
    rcases List.mem_append.mp mem with ahead | behind
    · exact foldedDelimiterless tables host admitted c ahead
    · exact spaceDelimiterless blank c behind
  unfold normalizedNetlocAdmitted
  rw [Bool.or_eq_true]
  right
  apply List.all_eq_true.mpr
  intro c mem
  exact decide_eq_true (allowed c mem)

theorem plainSpaced {lib : TextLibrary} (tables : UnicodeText lib) {netloc w : Text}
    (host : NetlocText netloc) (admitted : netlocAdmitted lib netloc = true)
    (plain : '[' ∉ netloc) (space : ∀ c ∈ w, isSpace c = true) :
    netlocAdmitted lib (netloc ++ w) = true := by
  have closed := noBrackets admitted plain
  have stillPlain := notSpaced (by decide) plain space
  have stillClosed := notSpaced (by decide) closed space
  unfold netlocAdmitted at admitted ⊢
  rw [Bool.and_eq_true] at admitted ⊢
  rw [if_neg (fun both => stillPlain both.1)]
  exact ⟨by simp [stillPlain,stillClosed],normalizedSpaced tables host admitted.2 space⟩

theorem bracketedPort {lib : TextLibrary} {host port : Text}
    (admitted : netlocAdmitted lib (bracketedText host port) = true) (noUser : '@' ∉ bracketedText host port)
    (closed : ']' ∉ host) (readable : portReadable (bracketedText host port) = true) :
    (port = [] ∨ ∃ digits, port = ':' :: digits) ∧ ']' ∉ port ∧ bracketedHostAdmitted lib host = true := by
  have both : '[' ∈ bracketedText host port ∧ ']' ∈ bracketedText host port := by simp [bracketedText]
  unfold netlocAdmitted at admitted
  rw [Bool.and_eq_true,if_pos both,bracketedAdmitted lib noUser closed,Bool.and_eq_true] at admitted
  obtain ⟨⟨form,hostAdmitted⟩,-⟩ := admitted
  have shape : port = [] ∨ ∃ digits, port = ':' :: digits := by
    simpa [List.head?_eq_some_iff] using form
  refine ⟨shape,?_,hostAdmitted⟩
  rcases shape with rfl | ⟨digits,rfl⟩
  · exact List.not_mem_nil
  · unfold portReadable at readable
    rw [(bracketedRead noUser closed).2,cut,if_pos rfl] at readable
    rw [List.mem_cons,not_or]
    refine ⟨by decide,?_⟩
    intro mem
    cases digits with
    | nil => cases mem
    | cons d rest =>
      simp only [Bool.and_eq_true] at readable
      have digit := List.all_eq_true.mp readable.1 _ mem
      revert digit
      decide

theorem bracketedSpaced {lib : TextLibrary} (tables : UnicodeText lib) {host port w : Text}
    (text : NetlocText (bracketedText host port)) (admitted : netlocAdmitted lib (bracketedText host port) = true)
    (noUser : '@' ∉ bracketedText host port) (closed : ']' ∉ host)
    (hostAdmitted : bracketedHostAdmitted lib host = true) (space : ∀ c ∈ w, isSpace c = true) :
    netlocAdmitted lib (bracketedText host port ++ w) = ((port ++ w) == [] || (port ++ w).head? == some ':') ∧
      hostnameText (bracketedText host port ++ w) = host := by
  have longer : bracketedText host port ++ w = bracketedText host (port ++ w) := by simp [bracketedText]
  have stillNoUser : '@' ∉ bracketedText host (port ++ w) := by
    rw [← longer]
    exact notSpaced (by decide) noUser space
  have both : '[' ∈ bracketedText host (port ++ w) ∧ ']' ∈ bracketedText host (port ++ w) := by
    simp [bracketedText]
  refine ⟨?_,?_⟩
  · unfold netlocAdmitted at admitted ⊢
    rw [Bool.and_eq_true] at admitted
    rw [normalizedSpaced tables text admitted.2 space,longer,if_pos both,
      bracketedAdmitted lib stillNoUser closed,hostAdmitted,Bool.and_true,Bool.and_true]
  · rw [longer]
    exact (bracketedRead stillNoUser closed).1

theorem netlocMarked {lib : TextLibrary} (tables : UnicodeText lib) {netloc w : Text} (text : NetlocText netloc)
    (admitted : netlocAdmitted lib netloc = true) (readable : portReadable netloc = true)
    (noUser : '@' ∉ netloc) (space : ∀ c ∈ w, isSpace c = true) (marked : ':' ∈ afterLast ']' netloc) :
    netlocAdmitted lib (netloc ++ w) = true ∧ hostnameText (netloc ++ w) = hostnameText netloc := by
  by_cases plain : '[' ∈ netloc
  · obtain ⟨host,port,rfl,closed⟩ := bracketedForm admitted noUser plain
    obtain ⟨shape,noClosing,hostAdmitted⟩ := bracketedPort admitted noUser closed readable
    obtain ⟨still,same⟩ := bracketedSpaced tables text admitted noUser closed hostAdmitted space
    rw [bracketedEnd noClosing] at marked
    rcases shape with rfl | ⟨digits,rfl⟩
    · cases marked
    · rw [still,same,(bracketedRead noUser closed).1]
      exact ⟨rfl,rfl⟩
  · rw [afterLastAbsent (noBrackets admitted plain)] at marked
    refine ⟨plainSpaced tables text admitted plain space,?_⟩
    rw [(plainRead noUser plain).1,
      (plainRead (notSpaced (by decide) noUser space) (notSpaced (by decide) plain space)).1]
    exact cutSpaced marked

theorem netlocUnmarked {lib : TextLibrary} (tables : UnicodeText lib) {netloc w : Text} (text : NetlocText netloc)
    (admitted : netlocAdmitted lib netloc = true) (readable : portReadable netloc = true)
    (noUser : '@' ∉ netloc) (space : ∀ c ∈ w, isSpace c = true) (some : w ≠ [])
    (unmarked : ':' ∉ afterLast ']' netloc) (still : netlocAdmitted lib (netloc ++ w) = true) :
    hostnameText (netloc ++ w) = hostnameText netloc ++ w := by
  by_cases plain : '[' ∈ netloc
  · obtain ⟨host,port,rfl,closed⟩ := bracketedForm admitted noUser plain
    obtain ⟨shape,noClosing,hostAdmitted⟩ := bracketedPort admitted noUser closed readable
    obtain ⟨other,-⟩ := bracketedSpaced tables text admitted noUser closed hostAdmitted space
    rw [bracketedEnd noClosing] at unmarked
    rcases shape with rfl | ⟨digits,rfl⟩
    · cases w with
      | nil => exact absurd rfl some
      | cons c rest =>
        have blank := space c List.mem_cons_self
        rw [still] at other
        have colon : c = ':' := by simpa using other.symm
        rw [colon] at blank
        cases blank
    · exact absurd List.mem_cons_self unmarked
  · have noColon : ':' ∉ netloc := by
      rw [afterLastAbsent (noBrackets admitted plain)] at unmarked
      exact unmarked
    rw [(plainRead noUser plain).1,
      (plainRead (notSpaced (by decide) noUser space) (notSpaced (by decide) plain space)).1,
      cutAbsent noColon,cutAbsent (notSpaced (by decide) noColon space)]

section Requests
variable {lib : TextLibrary} {s host scheme netloc rest : Text}

theorem markedPath {c : Char} (mark : c = '?' ∨ c = '#') (scheme netloc tail : Text) :
    (splitRest scheme netloc (c :: tail)).path = [] := by
  rcases mark with rfl | rfl
  · simp [splitRest,cut]
  · simp [splitRest,cut]

theorem requestForm (origin : Origin lib (stripped s) host scheme netloc rest)
    (plain : ∀ c ∈ leading s, isC0OrSpace c = true) (p : Text) :
    cleaned (s ++ p) = written scheme netloc (rest ++ (safeChars (trailing s) ++ safeChars p)) := by
  have shown : cleaned (stripped s) ≠ [] := by
    rw [origin.form]
    simp [written]
  rw [requestCleaned plain shown,origin.form]
  simp [written]

theorem safeSpaces (s : Text) : ∀ c ∈ safeChars (trailing s), isSpace c = true :=
  fun _ mem => trailingSpace (List.mem_of_mem_filter mem)

theorem netlocSpaced (text : NetlocText netloc) (s : Text) : NetlocText (netloc ++ safeChars (trailing s)) where
  safe c mem := by
    rcases List.mem_append.mp mem with ahead | behind
    · exact text.safe c ahead
    · simpa using (List.mem_filter.mp behind).2
  undelimited c mem := by
    rcases List.mem_append.mp mem with ahead | behind
    · exact text.undelimited c ahead
    · have plain := spaceDelimiterless (safeSpaces s) c behind
      simp at plain
      exact ⟨plain.1,plain.2.1,plain.2.2.1⟩

theorem safePath {p : Text} (rooted : p.head? = some '/') : AfterNetloc (safeChars p) where
  safe c mem := by simpa using (List.mem_filter.mp mem).2
  delimited := by
    obtain ⟨tail,rfl⟩ := List.head?_eq_some_iff.mp rooted
    intro c first
    exact .inl (Option.some.inj first).symm

theorem markedRequest (origin : Origin lib (stripped s) host scheme netloc rest)
    (plain : ∀ c ∈ leading s, isC0OrSpace c = true) (marked : rest ≠ []) {p : Text} {parts : SplitResult}
    (read : urlsplit lib (s ++ p) = some parts) : parts.path = [] := by
  have form := requestForm origin plain p
  obtain ⟨c,tail,rfl,mark⟩ : ∃ c tail, rest = c :: tail ∧ (c = '?' ∨ c = '#') := by
    rcases origin.bare with rfl | rfl | rfl | rfl
    · exact absurd rfl marked
    · exact ⟨_,_,rfl,.inl rfl⟩
    · exact ⟨_,_,rfl,.inr rfl⟩
    · exact ⟨_,_,rfl,.inl rfl⟩
  have safe : ∀ d ∈ c :: tail ++ (safeChars (trailing s) ++ safeChars p), isUnsafe d = false := by
    intro d mem
    have inside : d ∈ cleaned (s ++ p) := by
      rw [form]
      exact List.mem_append_right _ mem
    exact cleanedSafe inside
  have after : AfterNetloc (c :: tail ++ (safeChars (trailing s) ++ safeChars p)) := by
    refine ⟨safe,?_⟩
    intro d first
    obtain rfl := Option.some.inj first
    exact .inr mark
  rw [urlsplitCleaned lib origin.named origin.netlocText after form,if_pos origin.admitted] at read
  cases read
  exact markedPath mark _ _ _

theorem plainRequest (origin : Origin lib (stripped s) host scheme netloc [])
    (plain : ∀ c ∈ leading s, isC0OrSpace c = true) {p : Text} (rooted : p.head? = some '/')
    (unmarked : '?' ∉ p ∧ '#' ∉ p) :
    urlsplit lib (s ++ p) =
      if netlocAdmitted lib (netloc ++ safeChars (trailing s)) then
        some ⟨scheme.map Char.toLower,netloc ++ safeChars (trailing s),safeChars p,[],[]⟩
      else none := by
  have form : cleaned (s ++ p) = written scheme (netloc ++ safeChars (trailing s)) (safeChars p) := by
    rw [requestForm origin plain p]
    simp [written]
  have still : '?' ∉ safeChars p ∧ '#' ∉ safeChars p :=
    ⟨fun mem => unmarked.1 (List.mem_of_mem_filter mem),fun mem => unmarked.2 (List.mem_of_mem_filter mem)⟩
  rw [urlsplitCleaned lib origin.named (netlocSpaced origin.netlocText s) (safePath rooted) form,
    splitRestPlain still]

theorem lowerAscii {c : Char} (ascii : isAscii c = true) : isAscii c.toLower = true := by
  have table : ∀ n : Fin 128, isAscii (Char.ofNat n).toLower = true := by decide
  have small : c.toNat < 128 := of_decide_eq_true ascii
  have here := table ⟨c.toNat,small⟩
  rwa [Char.ofNat_toNat] at here

theorem httpsScheme (tables : UnicodeText lib) (origin : Origin lib (stripped s) host scheme netloc rest) :
    scheme.map Char.toLower = "https".toList := by
  have ascii : ∀ c ∈ scheme.map Char.toLower, isAscii c = true := by
    intro c mem
    obtain ⟨d,inside,rfl⟩ := List.mem_map.mp mem
    have plain := origin.named.chars d inside
    unfold isSchemeChar at plain
    rw [Bool.and_eq_true] at plain
    exact lowerAscii plain.1
  have folded := origin.https
  rw [tables.casefoldAscii _ ascii,List.map_map] at folded
  have again : Char.toLower ∘ Char.toLower = Char.toLower := funext toLowerTwice
  rw [again] at folded
  rw [← String.toList_ofList (l := scheme.map Char.toLower),folded]

theorem memMark (origin : Origin lib (stripped s) host scheme netloc rest) {c : Char} (mark : Mark c)
    (outside : c ∉ [':','/']) : c ∈ s ↔ c ∈ netloc ∨ c ∈ rest := by
  rw [memCleaned mark,origin.form]
  unfold written
  simp only [List.mem_append]
  constructor
  · rintro (((inScheme | inMarks) | inNetloc) | inRest)
    · have plain := origin.named.chars c inScheme
      rw [mark.letterless] at plain
      cases plain
    · simp at inMarks outside
      rcases inMarks with colon | slash
      · exact absurd colon outside.1
      · exact absurd slash outside.2
    · exact .inl inNetloc
    · exact .inr inRest
  · rintro (inNetloc | inRest)
    · exact .inl (.inr inNetloc)
    · exact .inr inRest

theorem questionIff (origin : Origin lib (stripped s) host scheme netloc rest) : '?' ∈ s ↔ '?' ∈ rest := by
  rw [memMark origin ⟨by decide,by decide,by decide,by decide⟩ (by decide)]
  exact or_iff_right (fun mem => (origin.netlocText.undelimited _ mem).2.1 rfl)

theorem hashIff (origin : Origin lib (stripped s) host scheme netloc rest) : '#' ∈ s ↔ '#' ∈ rest := by
  rw [memMark origin ⟨by decide,by decide,by decide,by decide⟩ (by decide)]
  exact or_iff_right (fun mem => (origin.netlocText.undelimited _ mem).2.2 rfl)

theorem userIff (origin : Origin lib (stripped s) host scheme netloc rest) : '@' ∈ s ↔ '@' ∈ netloc := by
  rw [memMark origin ⟨by decide,by decide,by decide,by decide⟩ (by decide)]
  apply or_iff_left
  rcases origin.bare with rfl | rfl | rfl | rfl <;> decide

theorem unmarkedRest (origin : Origin lib (stripped s) host scheme netloc rest)
    (unmarked : '?' ∉ s ∧ '#' ∉ s) : rest = [] := by
  rw [questionIff origin,hashIff origin] at unmarked
  rcases origin.bare with rfl | rfl | rfl | rfl
  · rfl
  · exact absurd List.mem_cons_self unmarked.1
  · exact absurd List.mem_cons_self unmarked.2
  · exact absurd List.mem_cons_self unmarked.1

theorem lastOfOrigin (origin : Origin lib (stripped s) host scheme netloc []) :
    afterLast '/' (cleaned (stripped s)) = netloc := by
  have noSlash : '/' ∉ netloc := fun mem => (origin.netlocText.undelimited _ mem).1 rfl
  have whole : written scheme netloc [] = (scheme ++ [':','/']) ++ '/' :: netloc := by simp [written]
  rw [origin.form,whole,afterLastAppend noSlash]

theorem originHost (origin : Origin lib (stripped s) host scheme netloc rest) :
    hostnameText netloc ≠ [] ∧ host = loweredHost lib (hostnameText netloc) :=
  hostnameGiven origin.host

theorem requestReaches (tables : UnicodeText lib) (origin : Origin lib (stripped s) host scheme netloc rest)
    {p : Text} (rooted : p.head? = some '/') (plainP : '?' ∉ p ∧ '#' ∉ p) (usable : Usable s p) :
    Reaches lib host p (s ++ p) := by
  obtain rfl := unmarkedRest origin ⟨usable.unmarked.1,usable.unmarked.2.1⟩
  have noUser : '@' ∉ netloc := (userIff origin).not.mp usable.unmarked.2.2
  have netlocRead : netlocAdmitted lib (netloc ++ safeChars (trailing s)) = true ∧
      hostnameText (netloc ++ safeChars (trailing s)) = hostnameText netloc := by
    rcases usable.trailingPlain with empty | marked
    · rw [empty,List.append_nil]
      exact ⟨origin.admitted,rfl⟩
    · rw [lastOfOrigin origin] at marked
      exact netlocMarked tables origin.netlocText origin.admitted origin.port noUser (safeSpaces s) marked
  have path : safeChars p = p := filterSafe usable.pathSafe
  have split := plainRequest origin usable.leadingPlain rooted plainP
  rw [if_pos netlocRead.1,path,httpsScheme tables origin] at split
  have parse : urlparse lib (s ++ p) =
      some ⟨"https".toList,netloc ++ safeChars (trailing s),p,
        if ';' ∈ p then (splitParams p).2 else [],[],[]⟩ := by
    unfold urlparse
    rw [split]
    by_cases params : ';' ∈ p
    · have uses : "https".toList ∈ usesParams ∧ ';' ∈ p := ⟨by decide,params⟩
      simp only [bind,Option.bind,if_pos uses,if_pos params,splitParamsWhole.mpr usable.noParams]
    · simp only [bind,Option.bind,params,and_false,if_false]
  obtain ⟨shown,same⟩ := originHost origin
  refine ⟨_,parse,rfl,?_,rfl,rfl,rfl,?_⟩
  · have visible : hostnameText (netloc ++ safeChars (trailing s)) ≠ [] := by
      rw [netlocRead.2]
      exact shown
    rw [same,← netlocRead.2]
    exact hostnameRead lib visible
  · exact if_neg (notSpaced (by decide) noUser (safeSpaces s))

theorem pathWhole {p : Text} (same : p = if ';' ∈ safeChars p then (splitParams (safeChars p)).1 else safeChars p) :
    (∀ c ∈ p, isUnsafe c = false) ∧ ';' ∉ afterLast '/' p := by
  have shorter : p.length ≤ (safeChars p).length := by
    conv_lhs => rw [same]
    split
    · have parts := congrArg List.length (splitParamsParts (safeChars p))
      have initial := (cutPrefix ';' (afterLast '/' (safeChars p))).length_le
      rw [List.length_append] at parts
      rw [splitParamsPath,List.length_append]
      omega
    · exact le_refl _
  have kept : safeChars p = p := List.filter_sublist.eq_of_length_le shorter
  rw [kept] at same
  refine ⟨?_,?_⟩
  · intro c mem
    rw [← kept] at mem
    simpa using (List.mem_filter.mp mem).2
  · by_cases semicolon : ';' ∈ p
    · rw [if_pos semicolon] at same
      exact splitParamsWhole.mp same.symm
    · exact fun mem => semicolon ((afterLastSuffix '/' p).subset mem)

theorem reachesUsable (tables : UnicodeText lib) (origin : Origin lib (stripped s) host scheme netloc rest)
    {p : Text} (rooted : p.head? = some '/') (plainP : '?' ∉ p ∧ '#' ∉ p) (reaches : Reaches lib host p (s ++ p)) :
    Usable s p := by
  obtain ⟨parsed,parse,requests⟩ := reaches
  obtain ⟨parts,split,sameScheme,sameNetloc,-,-,samePath⟩ := urlparseRead parse
  have leadingPlain : ∀ c ∈ leading s, isC0OrSpace c = true := by
    intro c mem
    by_contra late
    have noScheme := requestOpaque mem (Bool.eq_false_iff.mpr late) lib p split
    rw [← sameScheme,requests.scheme] at noScheme
    cases noScheme
  have unmarked : rest = [] := by
    by_contra marked
    have lost := markedRequest origin leadingPlain marked split
    rw [requests.path,lost,if_neg (fun both => List.not_mem_nil both.2)] at samePath
    rw [samePath] at rooted
    cases rooted
  subst unmarked
  have whole := plainRequest origin leadingPlain rooted plainP
  rw [split] at whole
  split at whole
  · rename_i admitted
    cases whole
    have noUser : '@' ∉ netloc ++ safeChars (trailing s) := by
      intro mem
      have none := requests.userinfo
      rw [sameNetloc,userinfo,if_pos mem] at none
      cases none
    have noUserAhead : '@' ∉ netloc := fun mem => noUser (List.mem_append_left _ mem)
    have https : "https".toList ∈ usesParams := by decide
    rw [requests.path,httpsScheme tables origin] at samePath
    simp only [https,true_and] at samePath
    obtain ⟨pathSafe,noParams⟩ := pathWhole samePath
    refine ⟨leadingPlain,⟨?_,?_,?_⟩,?_,pathSafe,noParams⟩
    · exact (questionIff origin).not.mpr List.not_mem_nil
    · exact (hashIff origin).not.mpr List.not_mem_nil
    · exact (userIff origin).not.mpr noUserAhead
    · rw [lastOfOrigin origin]
      by_contra neither
      obtain ⟨some,noColon⟩ := not_or.mp neither
      have longer := netlocUnmarked tables origin.netlocText origin.admitted origin.port noUserAhead
        (safeSpaces s) some noColon admitted
      obtain ⟨shown,same⟩ := originHost origin
      have named := requests.host
      rw [hostnameOfNetloc sameNetloc,hostnameRead lib (by simp [longer,shown]),longer,
        loweredSpaced tables _ (safeSpaces s),← same] at named
      have length := congrArg List.length (Option.some.inj named)
      rw [List.length_append] at length
      exact some (List.eq_nil_of_length_eq_zero (by omega))
  · cases whole

end Requests

theorem baseUrlSufficientIff {lib : TextLibrary} (tables : UnicodeText lib) {s host : Text}
    (accepted : baseUrlHostname lib s = .ok host) {path : Text} (rooted : path.head? = some '/')
    (plain : '?' ∉ path ∧ '#' ∉ path) : Reaches lib host path (s ++ path) ↔ Usable s path := by
  obtain ⟨scheme,netloc,rest,origin⟩ := acceptedOrigin accepted
  exact ⟨reachesUsable tables origin rooted plain,requestReaches tables origin rooted plain⟩

theorem spaceLower {c : Char} (space : isSpace c = true) : c.toLower = c := by
  unfold Char.toLower
  apply dif_neg
  intro upper
  have bounds : 65 ≤ c.toNat ∧ c.toNat ≤ 90 := upper
  unfold isSpace at space
  simp at space
  omega

theorem letterwiseText : UnicodeText letterwiseLibrary where
  casefoldAscii s _ := by
    change String.ofList ((String.ofList s).toList.map Char.toLower) = _
    rw [String.toList_ofList]
  lowerSpace s w space := by
    have kept : w.map Char.toLower = w :=
      (List.map_congr_left (fun c mem => spaceLower (space c mem))).trans (List.map_id w)
    change (String.ofList ((String.ofList (s ++ w)).toList.map Char.toLower)).toList =
      (String.ofList ((String.ofList s).toList.map Char.toLower)).toList ++ w
    simp only [String.toList_ofList,List.map_append,kept]
  nfkcAscii _ _ := rfl
  nfkcSpace _ w space := ⟨w,space,rfl⟩

theorem originReached :
    baseUrlHostname letterwiseLibrary "https://Example.okta.com:443".toList = .ok "example.okta.com".toList ∧
      (Reaches letterwiseLibrary "example.okta.com".toList "/oauth2/v1/token".toList
        "https://Example.okta.com:443/oauth2/v1/token".toList ↔
        Usable "https://Example.okta.com:443".toList "/oauth2/v1/token".toList) := by
  have accepted : baseUrlHostname letterwiseLibrary "https://Example.okta.com:443".toList =
      .ok "example.okta.com".toList := by decide +kernel
  exact ⟨accepted,baseUrlSufficientIff letterwiseText accepted (by decide) (by decide)⟩

/- An empty query is not seen by the check and swallows the path. -/
theorem questionMarkAccepted :
    baseUrlHostname letterwiseLibrary "https://example.okta.com?".toList = .ok "example.okta.com".toList ∧
      ¬Reaches letterwiseLibrary "example.okta.com".toList "/oauth2/v1/token".toList
        ("https://example.okta.com?".toList ++ "/oauth2/v1/token".toList) := by
  refine ⟨by decide +kernel,?_⟩
  rintro ⟨parsed,parse,requests⟩
  have read : urlparse letterwiseLibrary ("https://example.okta.com?".toList ++ "/oauth2/v1/token".toList) =
      some ⟨"https".toList,"example.okta.com".toList,[],[],"/oauth2/v1/token".toList,[]⟩ := by decide +kernel
  obtain rfl := Option.some.inj (read.symm.trans parse)
  exact absurd requests.path (by decide)

end OpenHoundOkta.BaseUrlRequests
