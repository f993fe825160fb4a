import OpenHoundOkta.Library.Urls
import Mathlib.Data.List.SplitBy

/-! URLs that are written out as `scheme://netloc` and a rest: what `urlsplit` and
`urlparse` read of them, and of texts put together with separators. -/
namespace OpenHoundOkta.Urls
open PythonText

theorem filterSafe {s : Text} (safe : ∀ c ∈ s, isUnsafe c = false) : s.filter (fun c => !isUnsafe c) = s := by
  refine List.filter_eq_self.mpr (fun c mem => ?_)
  rw [safe c mem]
  rfl

structure SchemeText (scheme : Text) : Prop where
  nonempty : scheme ≠ []
  letter : ∀ c ∈ scheme.head?, isAsciiLetter c = true
  chars : ∀ c ∈ scheme, isSchemeChar c = true

theorem schemeHttps : SchemeText "https".toList := by
  have chars : "https".toList.all isSchemeChar = true := by decide
  exact ⟨List.cons_ne_nil _ _,fun c first => Option.some.inj first ▸ rfl,List.all_eq_true.mp chars⟩

structure NetlocText (netloc : Text) : Prop where
  safe : ∀ c ∈ netloc, isUnsafe c = false
  undelimited : ∀ c ∈ netloc, c ≠ '/' ∧ c ≠ '?' ∧ c ≠ '#'

structure AfterNetloc (rest : Text) : Prop where
  safe : ∀ c ∈ rest, isUnsafe c = false
  delimited : ∀ c ∈ rest.head?, c = '/' ∨ c = '?' ∨ c = '#'

def written (scheme netloc rest : Text) : Text := scheme ++ [':','/','/'] ++ netloc ++ rest

theorem alphanumVisible {c : Char} (alnum : c.isAlphanum = true) : 0x20 < c.toNat := by
  have range := alphanumRange alnum
  omega

theorem visibleSafe {c : Char} (visible : 0x20 < c.toNat) : isC0OrSpace c = false ∧ isUnsafe c = false := by
  refine ⟨decide_eq_false (by omega),?_⟩
  unfold isUnsafe
  rw [Bool.or_eq_false_iff,Bool.or_eq_false_iff,beq_eq_false_iff_ne,beq_eq_false_iff_ne,beq_eq_false_iff_ne]
  refine ⟨⟨?_,?_⟩,?_⟩ <;>
  · rintro rfl
    revert visible
    decide

theorem schemeCharVisible {c : Char} (plain : isSchemeChar c = true) :
    isC0OrSpace c = false ∧ isUnsafe c = false ∧ c ≠ ':' := by
  have noColon : c ≠ ':' := by
    rintro rfl
    revert plain
    decide
  have visible : 0x20 < c.toNat := by
    unfold isSchemeChar at plain
    simp only [Bool.and_eq_true,Bool.or_eq_true,beq_iff_eq] at plain
    rcases plain.2 with ((alnum | rfl) | rfl) | rfl
    · exact alphanumVisible alnum
    · decide
    · decide
    · decide
  obtain ⟨lead,safe⟩ := visibleSafe visible
  exact ⟨lead,safe,noColon⟩

theorem splitSchemeWritten {scheme : Text} (named : SchemeText scheme) (rest : Text) :
    splitScheme (scheme ++ ':' :: rest) = (scheme.map Char.toLower,rest) := by
  cases scheme with
  | nil => exact absurd rfl named.nonempty
  | cons c tail =>
    have noColon : ':' ∉ c::tail := fun mem => (schemeCharVisible (named.chars ':' mem)).2.2 rfl
    have letter : isAsciiLetter c = true := named.letter c rfl
    have all : (c::tail).all isSchemeChar = true := List.all_eq_true.mpr named.chars
    unfold splitScheme
    rw [cutAppend noColon rest]
    exact if_pos ⟨List.cons_ne_nil _ _,letter,all⟩

theorem splitNetlocWritten {netloc rest : Text} (host : NetlocText netloc) (after : AfterNetloc rest) :
    splitNetloc ('/' :: '/' :: (netloc ++ rest)) = (netloc,rest) := by
  have kept : ∀ c ∈ netloc, (c != '/' && c != '?' && c != '#') = true := by
    intro c mem
    obtain ⟨slash,question,hash⟩ := host.undelimited c mem
    rw [Bool.and_eq_true,Bool.and_eq_true,bne_iff_ne,bne_iff_ne,bne_iff_ne]
    exact ⟨⟨slash,question⟩,hash⟩
  have stops : rest.takeWhile (fun c => c != '/' && c != '?' && c != '#') = [] := by
    cases rest with
    | nil => rfl
    | cons c tail =>
      obtain rfl | rfl | rfl := after.delimited c rfl <;> rfl
  show (netloc ++ rest).span (fun c => c != '/' && c != '?' && c != '#') = (netloc,rest)
  rw [List.span_eq_takeWhile_dropWhile,List.takeWhile_append_of_pos kept,List.dropWhile_append_of_pos kept,
    stops,List.append_nil]
  congr 1
  cases rest with
  | nil => rfl
  | cons c tail =>
    obtain rfl | rfl | rfl := after.delimited c rfl <;> rfl

def splitRest (scheme netloc rest : Text) : SplitResult where
  scheme := scheme
  netloc := netloc
  path := (cut '?' (cut '#' rest).1).1
  query := ((cut '?' (cut '#' rest).1).2).getD []
  fragment := ((cut '#' rest).2).getD []

theorem splitRestPlain {path : Text} (plain : '?' ∉ path ∧ '#' ∉ path) (scheme netloc : Text) :
    splitRest scheme netloc path = ⟨scheme,netloc,path,[],[]⟩ := by
  unfold splitRest
  rw [cutAbsent plain.2,cutAbsent plain.1]
  rfl

def cleaned (url : Text) : Text := (lstrip isC0OrSpace url).filter (fun c => !isUnsafe c)

theorem urlsplitScanned (lib : TextLibrary) (url : Text) :
    urlsplit lib url =
      if netlocAdmitted lib (splitNetloc (splitScheme (cleaned url)).2).1 then
        some (splitRest (splitScheme (cleaned url)).1 (splitNetloc (splitScheme (cleaned url)).2).1
          (splitNetloc (splitScheme (cleaned url)).2).2)
      else none := rfl

theorem cleanedWritten {scheme netloc rest : Text} (named : SchemeText scheme) (host : NetlocText netloc)
    (after : AfterNetloc rest) : cleaned (written scheme netloc rest) = written scheme netloc rest := by
  have visible : lstrip isC0OrSpace (written scheme netloc rest) = written scheme netloc rest := by
    cases scheme with
    | nil => exact absurd rfl named.nonempty
    | cons c tail => exact lstripHead (schemeCharVisible (named.chars c List.mem_cons_self)).1 _
  have safe : ∀ c ∈ written scheme netloc rest, isUnsafe c = false := by
    intro c mem
    unfold written at mem
    simp only [List.mem_append] at mem
    rcases mem with ((inScheme | inMarks) | inNetloc) | inRest
    · exact (schemeCharVisible (named.chars c inScheme)).2.1
    · revert inMarks
      simp only [List.mem_cons,List.not_mem_nil,or_false]
      rintro (rfl | rfl | rfl) <;> decide
    · exact host.safe c inNetloc
    · exact after.safe c inRest
  unfold cleaned
  rw [visible,filterSafe safe]

theorem urlsplitCleaned (lib : TextLibrary) {url scheme netloc rest : Text} (named : SchemeText scheme)
    (host : NetlocText netloc) (after : AfterNetloc rest) (form : cleaned url = written scheme netloc rest) :
    urlsplit lib url = if netlocAdmitted lib netloc then some (splitRest (scheme.map Char.toLower) netloc rest)
      else none := by
  have scanned : splitScheme (written scheme netloc rest) =
      (scheme.map Char.toLower,'/' :: '/' :: (netloc ++ rest)) := by
    rw [show written scheme netloc rest = scheme ++ ':' :: ('/' :: '/' :: (netloc ++ rest)) by
      simp [written]]
    exact splitSchemeWritten named _
  rw [urlsplitScanned,form,scanned]
  simp only [splitNetlocWritten host after]

theorem urlsplitWritten (lib : TextLibrary) {scheme netloc rest : Text} (named : SchemeText scheme)
    (host : NetlocText netloc) (after : AfterNetloc rest) :
    urlsplit lib (written scheme netloc rest) =
      if netlocAdmitted lib netloc then some (splitRest (scheme.map Char.toLower) netloc rest)
      else none :=
  urlsplitCleaned lib named host after (cleanedWritten named host after)

theorem urlparseWritten (lib : TextLibrary) {scheme netloc rest : Text} (named : SchemeText scheme)
    (host : NetlocText netloc) (after : AfterNetloc rest) (admitted : netlocAdmitted lib netloc = true)
    (noParams : ';' ∉ (cut '?' (cut '#' rest).1).1) :
    urlparse lib (written scheme netloc rest) = some ⟨scheme.map Char.toLower,netloc,
      (cut '?' (cut '#' rest).1).1,[],((cut '?' (cut '#' rest).1).2).getD [],((cut '#' rest).2).getD []⟩ := by
  have split := urlsplitWritten lib named host after
  rw [if_pos admitted] at split
  simp only [urlparse,split,splitRest,bind,Option.bind,noParams,and_false,if_false]

def DecodesAscii (lib : TextLibrary) : Prop :=
  ∀ bytes : List UInt8, (∀ b ∈ bytes, b.toNat < 128) →
    lib.decodeUtf8 bytes = bytes.map (fun b => Char.ofNat b.toNat)

def asciiByte (c : Char) : UInt8 := UInt8.ofNat c.toNat

theorem asciiByteNat {c : Char} (ascii : isAscii c = true) : (asciiByte c).toNat = c.toNat := by
  have small : c.toNat < 128 := of_decide_eq_true ascii
  unfold asciiByte
  rw [UInt8.toNat_ofNat',Nat.mod_eq_of_lt (by omega)]

theorem asciiByteBack {s : Text} (ascii : ∀ c ∈ s, isAscii c = true) :
    (s.map asciiByte).map (fun b => Char.ofNat b.toNat) = s := by
  induction s with
  | nil => rfl
  | cons c tail ih =>
    have first := ascii c List.mem_cons_self
    have later := ih (fun d mem => ascii d (List.mem_cons_of_mem _ mem))
    rw [List.map_cons,List.map_cons,later,asciiByteNat first,Char.ofNat_toNat]

theorem unquotePlain {s : Text} (plain : '%' ∉ s) (rest : Text) :
    unquoteToBytes (s ++ rest) = s.map asciiByte ++ unquoteToBytes rest := by
  induction s with
  | nil => rfl
  | cons c tail ih =>
    rw [List.mem_cons,not_or] at plain
    have first : unquoteToBytes (c :: (tail ++ rest)) = asciiByte c :: unquoteToBytes (tail ++ rest) :=
      unquoteToBytes.eq_2 c (tail ++ rest) (fun _ _ _ same _ => plain.1 same.symm)
    rw [List.cons_append,first,ih plain.2]
    rfl

theorem unquoteAscii {lib : TextLibrary} (decodes : DecodesAscii lib) {s : Text} (nonempty : s ≠ [])
    (ascii : ∀ c ∈ s, isAscii c = true) (small : ∀ b ∈ unquoteToBytes s, b.toNat < 128) :
    unquote lib s = (unquoteToBytes s).map (fun b => Char.ofNat b.toNat) := by
  unfold unquote
  by_cases escaped : '%' ∈ s
  · have chain : s.IsChain (fun a b => isAscii a == isAscii b) := by
      refine List.Pairwise.isChain (List.pairwise_of_forall_mem_list (fun a first b second => ?_))
      rw [ascii a first,ascii b second]
      rfl
    rw [if_neg (not_not.mpr escaped),List.splitBy_of_isChain nonempty chain]
    simp only [List.flatMap_cons,List.flatMap_nil,List.append_nil]
    rw [if_pos (List.all_eq_true.mpr ascii),decodes _ small]
  · have bytes := unquotePlain escaped []
    rw [List.append_nil,show unquoteToBytes [] = [] from rfl,List.append_nil] at bytes
    rw [if_pos escaped,bytes,asciiByteBack ascii]

theorem plusToSpacePlain {s : Text} (plain : '+' ∉ s) : plusToSpace s = s := by
  refine (List.map_congr_left (fun c mem => ?_)).trans (List.map_id s)
  rw [if_neg]
  · rfl
  · rintro rfl
    exact plain mem

theorem queryValueSingle (lib : TextLibrary) {key value : Text} (plus : '+' ∉ key) (percent : '%' ∉ key)
    (equals : '=' ∉ key) (ampersand : '&' ∉ key ++ '=' :: value) (nonempty : value ≠ []) :
    queryValue lib (key ++ '=' :: value) key = some (unquote lib (plusToSpace value)) := by
  have name : unquote lib (plusToSpace key) = key := by
    rw [plusToSpacePlain plus,unquote,if_pos percent]
  unfold queryValue parseQsl
  rw [List.splitOn_eq_singleton ampersand]
  simp only [List.filterMap_cons,List.filterMap_nil,cutAppend equals,Option.getD_some,if_neg nonempty,name,
    List.find?_cons,beq_self_eq_true,Option.map_some]

end OpenHoundOkta.Urls
