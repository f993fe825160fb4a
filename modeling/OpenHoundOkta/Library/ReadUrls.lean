import OpenHoundOkta.Library.WrittenUrls
import OpenHoundOkta.Library.PythonNumbers

/-! The other direction: a URL from which `urlsplit` reads a scheme and a netloc is, once
cleaned, one written as in `written`. -/
namespace OpenHoundOkta.Urls
open PythonText PythonNumbers

def portText (netloc : Text) : Option Text :=
  match cut '[' (hostAndPort netloc) with
  | (_,some bracketed) => (cut ':' ((cut ']' bracketed).2.getD [])).2
  | (plain,none) => (cut ':' plain).2

def portReadable (netloc : Text) : Bool :=
  match portText netloc with
  | none | some [] => true
  | some digits =>
    digits.all Char.isDigit && (intOf asciiDigit (String.ofList digits)).any (fun port => port ≤ 65535)

def ParseResult.split (parsed : ParseResult) : SplitResult where
  scheme := parsed.scheme
  netloc := parsed.netloc
  path := parsed.path
  query := parsed.query
  fragment := parsed.fragment

def safeChars (s : Text) : Text := s.filter (fun c => !isUnsafe c)

theorem cleanedSafe {url : Text} {c : Char} (mem : c ∈ cleaned url) : isUnsafe c = false := by
  have kept := (List.mem_filter.mp mem).2
  simpa using kept

theorem splitSchemeRead {url : Text} (named : (splitScheme url).1 ≠ []) :
    ∃ scheme, SchemeText scheme ∧ url = scheme ++ ':' :: (splitScheme url).2 ∧
      (splitScheme url).1 = scheme.map Char.toLower := by
  cases url with
  | nil => exact (named rfl).elim
  | cons c rest =>
    cases found : cut ':' (c::rest) with
    | mk before after =>
      cases after with
      | none =>
        unfold splitScheme at named
        rw [found] at named
        exact (named rfl).elim
      | some after =>
        unfold splitScheme at named ⊢
        rw [found] at named ⊢
        by_cases plain : before ≠ [] ∧ isAsciiLetter c = true ∧ before.all isSchemeChar = true
        · obtain ⟨whole,-⟩ := cutSome found
          simp only [if_pos plain]
          refine ⟨before,⟨plain.1,?_,List.all_eq_true.mp plain.2.2⟩,whole,rfl⟩
          intro d first
          obtain ⟨tail,rfl⟩ := List.head?_eq_some_iff.mp first
          rw [← (List.cons.inj whole).1]
          exact plain.2.1
        · simp only [if_neg plain] at named
          exact (named rfl).elim

theorem splitNetlocRead {url : Text} (host : (splitNetloc url).1 ≠ []) :
    url = '/' :: '/' :: ((splitNetloc url).1 ++ (splitNetloc url).2) ∧
      (∀ c ∈ (splitNetloc url).1, c ≠ '/' ∧ c ≠ '?' ∧ c ≠ '#') ∧
      ∀ c ∈ (splitNetloc url).2.head?, c = '/' ∨ c = '?' ∨ c = '#' := by
  unfold splitNetloc at host ⊢
  split
  · rename_i rest
    rw [List.span_eq_takeWhile_dropWhile]
    refine ⟨by rw [List.takeWhile_append_dropWhile],?_,?_⟩
    · intro c mem
      have kept := List.mem_takeWhile_imp mem
      simpa [and_assoc] using kept
    · intro c first
      have stops := List.head?_dropWhile_not (fun c => c != '/' && c != '?' && c != '#') rest
      rw [Option.mem_def.mp first] at stops
      by_contra other
      obtain ⟨slash,question,hash⟩ : c ≠ '/' ∧ c ≠ '?' ∧ c ≠ '#' := by simpa using other
      simp [slash,question,hash] at stops
  · rename_i other
    split at host
    · rename_i rest
      exact (other rest rfl).elim
    · exact (host rfl).elim

theorem urlsplitScheme {lib : TextLibrary} {url : Text} {parts : SplitResult}
    (read : urlsplit lib url = some parts) : parts.scheme = (splitScheme (cleaned url)).1 := by
  rw [urlsplitScanned] at read
  split at read
  · cases read
    rfl
  · cases read

theorem urlsplitRead {lib : TextLibrary} {url : Text} {parts : SplitResult}
    (read : urlsplit lib url = some parts) (named : parts.scheme ≠ []) (host : parts.netloc ≠ []) :
    ∃ scheme rest, SchemeText scheme ∧ NetlocText parts.netloc ∧ AfterNetloc rest ∧
      cleaned url = written scheme parts.netloc rest ∧ netlocAdmitted lib parts.netloc = true ∧
      parts = splitRest (scheme.map Char.toLower) parts.netloc rest := by
  rw [urlsplitScanned] at read
  split at read
  · rename_i admitted
    cases read
    obtain ⟨scheme,plain,whole,lowered⟩ := splitSchemeRead named
    obtain ⟨after,undelimited,delimited⟩ := splitNetlocRead host
    have form : cleaned url = written scheme (splitNetloc (splitScheme (cleaned url)).2).1
        (splitNetloc (splitScheme (cleaned url)).2).2 := by
      conv_lhs => rw [whole,after]
      simp [written]
    have safe : ∀ c ∈ written scheme (splitNetloc (splitScheme (cleaned url)).2).1
        (splitNetloc (splitScheme (cleaned url)).2).2, isUnsafe c = false := by
      rw [← form]
      exact fun c => cleanedSafe
    refine ⟨scheme,_,plain,⟨fun c mem => safe c ?_,undelimited⟩,⟨fun c mem => safe c ?_,delimited⟩,form,
      admitted,?_⟩
    · exact List.mem_append_left _ (List.mem_append_right _ mem)
    · exact List.mem_append_right _ mem
    · rw [lowered]
      rfl
  · cases read

theorem urlparseRead {lib : TextLibrary} {url : Text} {parsed : ParseResult}
    (read : urlparse lib url = some parsed) :
    ∃ parts, urlsplit lib url = some parts ∧ parsed.scheme = parts.scheme ∧ parsed.netloc = parts.netloc ∧
      parsed.query = parts.query ∧ parsed.fragment = parts.fragment ∧
      parsed.path =
        if parts.scheme ∈ usesParams ∧ ';' ∈ parts.path then (splitParams parts.path).1 else parts.path := by
  cases split : urlsplit lib url with
  | none =>
    rw [urlparse,split] at read
    cases read
  | some parts =>
    rw [urlparse,split] at read
    refine ⟨parts,rfl,?_⟩
    by_cases params : parts.scheme ∈ usesParams ∧ ';' ∈ parts.path
    · simp only [bind,Option.bind,if_pos params] at read
      cases read
      exact ⟨rfl,rfl,rfl,rfl,(if_pos params).symm⟩
    · simp only [bind,Option.bind,if_neg params] at read
      cases read
      exact ⟨rfl,rfl,rfl,rfl,(if_neg params).symm⟩

theorem splitParamsPath (path : Text) :
    (splitParams path).1 =
      path.take (path.length - (afterLast '/' path).length) ++ (cut ';' (afterLast '/' path)).1 := rfl

theorem splitParamsParts (path : Text) :
    path.take (path.length - (afterLast '/' path).length) ++ afterLast '/' path = path := by
  obtain ⟨ahead,whole⟩ := afterLastSuffix '/' path
  have length : path.length - (afterLast '/' path).length = ahead.length := by
    have sum := congrArg List.length whole
    rw [List.length_append] at sum
    omega
  have start : path.take ahead.length = ahead := by
    conv_lhs => rw [← whole]
    exact List.take_left
  rw [length,start,whole]

theorem splitParamsWhole {path : Text} : (splitParams path).1 = path ↔ ';' ∉ afterLast '/' path := by
  rw [splitParamsPath]
  constructor
  · intro whole mem
    obtain ⟨ahead,behind,segment,unseen⟩ := List.eq_append_cons_of_mem mem
    have same := List.append_cancel_left (whole.trans (splitParamsParts path).symm)
    rw [segment,cutAppend unseen] at same
    have length : ahead.length = (ahead ++ ';' :: behind).length := congrArg List.length same
    rw [List.length_append,List.length_cons] at length
    omega
  · intro absent
    rw [cutAbsent absent]
    exact splitParamsParts path

theorem hostnameOfNetloc {lib : TextLibrary} {parts other : SplitResult} (same : parts.netloc = other.netloc) :
    hostname lib parts = hostname lib other := by
  unfold hostname
  rw [same]

def loweredHost (lib : TextLibrary) (text : Text) : Text :=
  (lib.lower (String.ofList (cut '%' text).1)).toList ++ ((cut '%' text).2.map ('%' :: ·)).getD []

theorem hostnameRead (lib : TextLibrary) {parts : SplitResult} (shown : hostnameText parts.netloc ≠ []) :
    hostname lib parts = some (loweredHost lib (hostnameText parts.netloc)) := by
  unfold hostname
  cases text : hostnameText parts.netloc with
  | nil => exact absurd text shown
  | cons c rest => rfl

theorem hostnameGiven {lib : TextLibrary} {parts : SplitResult} {host : Text}
    (named : hostname lib parts = some host) :
    hostnameText parts.netloc ≠ [] ∧ host = loweredHost lib (hostnameText parts.netloc) := by
  have shown : hostnameText parts.netloc ≠ [] := by
    intro empty
    unfold hostname at named
    rw [empty] at named
    cases named
  rw [hostnameRead lib shown] at named
  exact ⟨shown,(Option.some.inj named).symm⟩

theorem plainRead {netloc : Text} (noUser : '@' ∉ netloc) (noBracket : '[' ∉ netloc) :
    hostnameText netloc = (cut ':' netloc).1 ∧ portText netloc = (cut ':' netloc).2 := by
  unfold hostnameText portText hostAndPort
  rw [afterLastAbsent noUser,cutAbsent noBracket]
  exact ⟨rfl,rfl⟩

def bracketedText (host port : Text) : Text := '[' :: (host ++ ']' :: port)

theorem cutBracket (host port : Text) : cut '[' (bracketedText host port) = ([],some (host ++ ']' :: port)) := by
  unfold bracketedText
  rw [cut,if_pos rfl]

theorem bracketedEnd {host port : Text} (noClosing : ']' ∉ port) : afterLast ']' (bracketedText host port) = port := by
  have whole : bracketedText host port = ('[' :: host) ++ ']' :: port := rfl
  rw [whole,afterLastAppend noClosing]

theorem bracketedRead {host port : Text} (noUser : '@' ∉ bracketedText host port) (closed : ']' ∉ host) :
    hostnameText (bracketedText host port) = host ∧ portText (bracketedText host port) = (cut ':' port).2 := by
  unfold hostnameText portText hostAndPort
  rw [afterLastAbsent noUser,cutBracket]
  exact ⟨by simp only [cutAppend closed],by simp only [cutAppend closed,Option.getD_some]⟩

theorem bracketedAdmitted (lib : TextLibrary) {host port : Text} (noUser : '@' ∉ bracketedText host port)
    (closed : ']' ∉ host) : bracketedNetlocAdmitted lib (bracketedText host port) =
      ((port == [] || port.head? == some ':') && bracketedHostAdmitted lib host) := by
  unfold bracketedNetlocAdmitted hostAndPort
  rw [afterLastAbsent noUser,cutBracket]
  simp only [cutAppend closed,Option.getD_some]
  rfl

theorem bracketedForm {lib : TextLibrary} {netloc : Text} (admitted : netlocAdmitted lib netloc = true)
    (noUser : '@' ∉ netloc) (opened : '[' ∈ netloc) :
    ∃ host port, netloc = bracketedText host port ∧ ']' ∉ host := by
  unfold netlocAdmitted at admitted
  rw [Bool.and_eq_true] at admitted
  by_cases both : '[' ∈ netloc ∧ ']' ∈ netloc
  · rw [if_pos both] at admitted
    have bracketed := admitted.1
    unfold bracketedNetlocAdmitted hostAndPort at bracketed
    rw [afterLastAbsent noUser] at bracketed
    cases found : cut '[' netloc with
    | mk before after =>
      cases after with
      | none => exact absurd opened (cutNone found).2
      | some after =>
        rw [found] at bracketed
        simp only [Bool.and_eq_true,beq_iff_eq] at bracketed
        have ahead : before = [] := bracketed.1.1
        have whole := (cutSome found).1
        rw [ahead,List.nil_append] at whole
        cases closing : cut ']' after with
        | mk host port =>
          cases port with
          | none =>
            have absent := (cutNone closing).2
            have present := both.2
            rw [whole,List.mem_cons] at present
            rcases present with same | mem
            · cases same
            · exact absurd mem absent
          | some port =>
            obtain ⟨inner,closed⟩ := cutSome closing
            exact ⟨host,port,by rw [whole,inner]; rfl,closed⟩
  · have closedOnly : ']' ∉ netloc := fun mem => both ⟨opened,mem⟩
    rw [if_neg both] at admitted
    simp [opened] at admitted

theorem noBrackets {lib : TextLibrary} {netloc : Text} (admitted : netlocAdmitted lib netloc = true)
    (plain : '[' ∉ netloc) : ']' ∉ netloc := by
  unfold netlocAdmitted at admitted
  rw [Bool.and_eq_true,if_neg (fun both => plain both.1)] at admitted
  simpa [plain] using admitted.1

end OpenHoundOkta.Urls
